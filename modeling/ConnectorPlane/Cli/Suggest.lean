/-! # Similar names

A mistyped subcommand or flag is compared with the names the command knows by the Jaro
similarity of their characters. Two characters match when they are equal and no further apart
than half the longer length, less one; each character of the second name matches at most once,
the first free one in order. With `m` matches, of which `t` pairs are out of order, over lengths
`a` and `b`, the similarity is `(m/a + m/b + (m - t)/m) / 3`; two empty names are alike and an
empty name is like no other.

The names suggested are those more than 0.7 similar, least similar first, names equally
similar in the order they were given. Scores are kept as exact fractions.
-/

namespace ConnectorPlane

namespace Cli

/-- A similarity as a fraction `num / den` with a positive denominator. -/
structure Similarity where
  num : Nat
  den : Nat
deriving DecidableEq, Repr

namespace Similarity

/-- Whether one similarity is below another. -/
def lt (x y : Similarity) : Bool := x.num * y.den < y.num * x.den

/-- Whether a similarity is above 0.7. -/
def isClose (x : Similarity) : Bool := 10 * x.num > 7 * x.den

end Similarity

/-- Marks the first free character of `b` equal to `c` within the window around position `i`. -/
def jaroMatch (b : List Char) (window : Nat) (acc : List Char × List Bool) (i : Nat) (c : Char) :
    List Char × List Bool :=
  let lo := i - window
  let hi := min b.length (i + window + 1)
  match (List.range' lo (hi - lo)).find? (fun j => b[j]? == some c && acc.2[j]? == some false) with
  | some j => (acc.1 ++ [c], acc.2.set j true)
  | none => acc

/-- The Jaro similarity of two names. -/
def jaro (x y : String) : Similarity :=
  let a := x.toList
  let b := y.toList
  if a.isEmpty && b.isEmpty then ⟨1, 1⟩
  else if a.isEmpty || b.isEmpty then ⟨0, 1⟩
  else
    let window := max a.length b.length / 2 - 1
    let (fromA, flags) := a.zipIdx.foldl (fun acc (c, i) => jaroMatch b window acc i c)
      ([], List.replicate b.length false)
    let fromB := (b.zip flags).filterMap fun (c, f) => if f then some c else none
    let m := fromA.length
    let t := ((fromA.zip fromB).filter fun (p, q) => p != q).length / 2
    if m = 0 then ⟨0, 1⟩
    else ⟨m * m * b.length + m * m * a.length + (m - t) * a.length * b.length,
          3 * a.length * b.length * m⟩

/-- The known names more than 0.7 similar to a word, least similar first. -/
def similarNames (word : String) (known : List String) : List String :=
  let scored := (known.map fun k => (jaro word k, k)).filter (·.1.isClose)
  (scored.mergeSort fun p q => !(q.1.lt p.1)).map (·.2)

end Cli

end ConnectorPlane
