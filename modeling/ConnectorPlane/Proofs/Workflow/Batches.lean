import ConnectorPlane.Proofs.Service.Submissions
import Mathlib.Data.List.TakeWhile
import Mathlib.Data.List.DropRight

/-! # Record batches and the lines of a write

`writeRecords` takes the records of a write from the payload member named for the model task,
writes them as one compact JSON line each and submits the lines; the write workflow answers the
count of the non-blank lines it is given. The count is the batch's length because the compact
writer escapes every control character, so no record's line holds a line feed of its own, and
because every line is an object's text, never blank.

* `Json.printable_compact`: the compact text of any value, at any depth, holds no character
  below U+0020.
* `RecordBatch.ofPayload_eq_ok_iff`: a payload gives a batch exactly when the task's member is
  an array of objects; `RecordBatch.ofPayload_of_get?_none`, `ofPayload_of_not_arr` and
  `ofPayload_of_first_non_object` give the refusal of every other payload, naming the member or
  the index of its first record that is not an object.
* `RecordBatch.messages_lines`, `RecordBatch.countRecords_messages`: the lines of a batch are its
  record messages in order, and the write workflow counts one per record.
* `Plane.writeRecords_counted`: what the write workflow answers for the submission of
  `writeRecords` is the length of the batch it took from the payload.

Reading a line back as the value it is the text of is the JSON codec's round trip, which is
taken for granted here: the lines are stated as the compact texts of the record messages.
-/

namespace ConnectorPlane

namespace Json

/-- Text with no character below U+0020: no control character a JSON string may not hold raw,
and in particular no line feed. -/
def Printable (s : String) : Prop := ∀ c ∈ s.toList, 32 ≤ c.toNat

instance : DecidablePred Printable := fun s =>
  decidable_of_iff ((s.toList.all fun c => 32 ≤ c.toNat) = true) (by simp [Printable])

theorem printable_ofList {cs : List Char} (h : ∀ c ∈ cs, 32 ≤ c.toNat) :
    Printable (String.ofList cs) := by
  intro c hc
  rw [String.toList_ofList] at hc
  exact h c hc

theorem Printable.intercalate {sep : String} (hsep : Printable sep) :
    ∀ {ss : List String}, (∀ s ∈ ss, Printable s) → Printable (sep.intercalate ss)
  | [], _ => by simp [Printable]
  | [s], h => by simpa using h s List.mem_cons_self
  | s :: s' :: ss, h => by
    have hrest : Printable (sep.intercalate (s' :: ss)) :=
      Printable.intercalate hsep fun t ht => h t (List.mem_cons_of_mem s ht)
    intro c hc
    rw [String.toList_intercalate, List.map_cons, List.map_cons, List.intercalate_cons_cons,
      ← List.map_cons, ← String.toList_intercalate, List.mem_append, List.mem_append] at hc
    rcases hc with (hc | hc) | hc
    · exact h s List.mem_cons_self c hc
    · exact hsep c hc
    · exact hrest c hc

theorem printable_escapeChar (c : Char) : ∀ d ∈ escapeChar c, 32 ≤ d.toNat := by
  have hhex : ∀ n, n < 16 → 48 ≤ (hexDigit n).toNat := by decide
  unfold escapeChar
  split_ifs with h1 h2 h3 h4 h5 h6 h7 h8 <;> simp
  -- `\u00xx`: the hex digits of a code below 32
  · have hhi := hhex (c.toNat / 16) (by omega)
    have hlo := hhex (c.toNat % 16) (Nat.mod_lt _ (by decide))
    omega
  -- any other character stands for itself, and is no control character
  · omega

theorem printable_append_iff {a b : String} :
    Printable (a ++ b) ↔ Printable a ∧ Printable b := by
  simp only [Printable, String.toList_append, List.mem_append]
  exact ⟨fun h => ⟨fun c hc => h c (.inl hc), fun c hc => h c (.inr hc)⟩,
    fun h c hc => hc.elim (h.1 c) (h.2 c)⟩

theorem printable_quote (s : String) : Printable (quote s) := by
  refine printable_ofList fun c hc => ?_
  simp only [List.mem_cons, List.mem_append, List.mem_flatMap, List.not_mem_nil,
    or_false] at hc
  rcases hc with rfl | ⟨d, -, hd⟩ | rfl
  · decide
  · exact printable_escapeChar d c hd
  · decide

theorem printable_natText (n : Nat) : Printable n.repr := by
  rw [← Nat.toString_eq_repr, Nat.toString_eq_ofList_toDigits]
  refine printable_ofList fun c hc => ?_
  have := Digits.digit_bounds (Nat.isDigit_of_mem_toDigits (by decide) (by decide) hc)
  omega

theorem printable_intText (v : Int) : Printable (toString v) := by
  cases v with
  | ofNat m => exact printable_natText m
  | negSucc m =>
    show Printable ("-" ++ (m + 1).repr)
    exact printable_append_iff.2 ⟨by decide, printable_natText (m + 1)⟩

theorem printable_layoutDigits (f : DoubleFormat) {ds : String} (hds : Printable ds) (k : Int) :
    Printable (layoutDigits f ds k) := by
  have hzeros : ∀ n, Printable (zeros n) := fun n => printable_ofList fun c hc => by
    rw [List.eq_of_mem_replicate hc]
    decide
  have htake : ∀ n, Printable (String.ofList (ds.toList.take n)) := fun n =>
    printable_ofList fun c hc => hds c (List.mem_of_mem_take hc)
  have hdrop : ∀ n, Printable (String.ofList (ds.toList.drop n)) := fun n =>
    printable_ofList fun c hc => hds c (List.mem_of_mem_drop hc)
  have htail : Printable (String.ofList ds.toList.tail) := by simpa using hdrop 1
  unfold layoutDigits
  dsimp only
  split_ifs <;> simp +decide [printable_append_iff, hds, hzeros, htake, hdrop, htail,
    printable_natText]

theorem printable_renderDouble (f : DoubleFormat) (bits : UInt64) :
    Printable (renderDouble f bits) := by
  unfold renderDouble
  split
  · split <;> decide
  · rename_i neg m e halved _
    obtain ⟨d, k⟩ := Decimal.shortest m e halved
    have hsign : Printable (if neg then "-" else "") := by split <;> decide
    exact printable_append_iff.2 ⟨hsign, printable_layoutDigits f (printable_natText d) k⟩
  · decide

theorem printable_renderNumber : ∀ n : Number, Printable (renderNumber n)
  | .int v => printable_intText v
  | .float bits => printable_renderDouble _ bits

/-- **The compact writer escapes every control character**: its text holds none, at any depth. -/
theorem printable_compact (v : Json) : Printable v.compact := by
  refine compact.induct (fun items => ∀ s ∈ compact.go items, Printable s)
    (fun v => Printable v.compact) (fun fs => ∀ s ∈ compact.goFields fs, Printable s)
    ?null ?tt ?ff ?num ?str ?arr ?obj ?nil ?cons ?fnil ?fcons v
  case null => decide
  case tt => decide
  case ff => intro b hb; simp [compact, hb]; decide
  case num => intro n; exact printable_renderNumber n
  case str => intro s; exact printable_quote s
  case arr =>
    intro items h
    simp only [compact, printable_append_iff]
    exact ⟨⟨by decide, Printable.intercalate (by decide) h⟩, by decide⟩
  case obj =>
    intro fs h
    simp only [compact, printable_append_iff]
    exact ⟨⟨by decide, Printable.intercalate (by decide) h⟩, by decide⟩
  case nil => simp [compact.go]
  case cons =>
    intro x xs hx hxs s hs
    simp only [compact.go, List.mem_cons] at hs
    rcases hs with rfl | hs
    · exact hx
    · exact hxs s hs
  case fnil => simp [compact.goFields]
  case fcons =>
    intro k w rest hw hrest s hs
    simp only [compact.goFields, List.mem_cons] at hs
    rcases hs with rfl | hs
    · have hkey : Printable (quote k ++ ":") :=
        printable_append_iff.2 ⟨printable_quote k, by decide⟩
      exact printable_append_iff.2 ⟨hkey, hw⟩
    · exact hrest s hs

theorem newline_not_mem_compact (v : Json) : '\n' ∉ v.compact.toList := fun h =>
  absurd (printable_compact v _ h) (by decide)

theorem lbrace_mem_compact_obj (fs : List (String × Json)) :
    '\x7b' ∈ (Json.obj fs).compact.toList := by
  simp [compact]

end Json

namespace Blank

theorem trim_isEmpty_iff (s : String) :
    (trim s).isEmpty = true ↔ ∀ c ∈ s.toList, isSpace c = true := by
  -- trimming the start drops only white space, so what is left is all white space only if empty
  have hstart : ∀ l : List Char,
      (∀ c ∈ trimStart l, isSpace c = true) ↔ ∀ c ∈ l, isSpace c = true := by
    intro l
    rw [← List.dropWhile_eq_nil_iff, trimStart, List.dropWhile_idempotent,
      List.dropWhile_eq_nil_iff]
  rw [String.isEmpty_iff, ← String.toList_eq_nil_iff, trim, String.toList_ofList,
    List.reverse_eq_nil_iff, trimStart, List.dropWhile_eq_nil_iff, ← hstart s.toList]
  simp

end Blank

namespace RecordBatch

/-- The message a record of a task is written as: a `RECORD` of the task's stream holding the
record and the time it was emitted at. -/
def recordMessage (task : ModelTask) (emittedAtMillis : Int) (r : Json) : Json :=
  Json.ofFields [("type", .str "RECORD"),
    ("record", Json.ofFields [("stream", .str task.streamName), ("data", r),
      ("emitted_at", .num (.int emittedAtMillis))])]

theorem messages_toList (b : RecordBatch) (t : Int) :
    (b.messages t).toList =
      (b.records.map fun r => (recordMessage b.task t r).compact.toList).flatMap
        (· ++ ['\n']) := by
  simp [messages, recordMessage, String.toList_join, List.flatMap_map]

end RecordBatch

theorem splitOn_lines {ls : List (List Char)} (h : ∀ l ∈ ls, '\n' ∉ l) :
    (ls.flatMap (· ++ ['\n'])).splitOn '\n' = ls ++ [[]] := by
  induction ls with
  | nil => rfl
  | cons l ls ih =>
    have hl : ∀ c ∈ l, (c == '\n') = false := fun c hc => by
      have : c ≠ '\n' := fun e => h l List.mem_cons_self (e ▸ hc)
      simpa using this
    rw [List.flatMap_cons, List.append_assoc, List.singleton_append, List.splitOn,
      List.splitOnP_append_cons _ _ (by decide), List.splitOnP_eq_singleton hl]
    exact congrArg (l :: ·) (ih fun l' hl' => h l' (List.mem_cons_of_mem _ hl'))

namespace RecordBatch

/-- **The lines of a write**: one per record, in order, each the compact text of the record's
message, followed by the empty rest after the last newline. -/
theorem messages_lines (b : RecordBatch) (t : Int) :
    (b.messages t).toList.splitOn '\n' =
      b.records.map (fun r => (recordMessage b.task t r).compact.toList) ++ [[]] := by
  rw [messages_toList]
  apply splitOn_lines
  intro l hl
  obtain ⟨r, -, rfl⟩ := List.mem_map.1 hl
  exact Json.newline_not_mem_compact _

theorem recordMessage_not_blank (task : ModelTask) (t : Int) (r : Json) :
    (Blank.trim (recordMessage task t r).compact).isEmpty = false := by
  have hbrace : Blank.isSpace '\x7b' = false := by decide
  rw [Bool.eq_false_iff, ne_eq, Blank.trim_isEmpty_iff]
  intro h
  have hspace := h _ (Json.lbrace_mem_compact_obj _)
  rw [hbrace] at hspace
  exact Bool.false_ne_true hspace

theorem countRecords_messages (b : RecordBatch) (t : Int) :
    countRecords (b.messages t) = b.records.length := by
  have hempty : (Blank.trim (String.ofList [])).isEmpty = true :=
    (Blank.trim_isEmpty_iff _).2 (by simp)
  have hlines : ∀ l ∈ b.records.map (fun r => (recordMessage b.task t r).compact.toList),
      (!(Blank.trim (String.ofList l)).isEmpty) = true := by
    intro l hl
    obtain ⟨r, -, rfl⟩ := List.mem_map.1 hl
    rw [String.ofList_toList, recordMessage_not_blank]
    rfl
  unfold countRecords
  rw [messages_lines, List.filter_append, List.filter_eq_self.2 hlines]
  simp [hempty]

theorem firstNonObject_eq (rs : List Json) (k : Nat) :
    firstNonObject rs k = (rs.findIdx? fun r => !r.isObject).map (· + k) := by
  induction rs generalizing k with
  | nil => rfl
  | cons r rest ih =>
    rw [firstNonObject, List.findIdx?_cons, ih]
    cases hr : r.isObject with
    | false => simp
    | true =>
      simp only [Bool.not_true, Bool.false_eq_true, ↓reduceIte, Option.map_map]
      congr 1
      funext i
      simp only [Function.comp_apply]
      omega

section Payload

variable {task : ModelTask} {data : Json}

theorem ofPayload_of_get?_none (h : data.get? task.rootField = none) :
    ofPayload task data = .error (.invalidArgument
      ("task input array '" ++ task.rootField ++ "' is not found in the payload")) := by
  simp only [ofPayload, h]

theorem ofPayload_of_not_arr {v : Json} (h : data.get? task.rootField = some v)
    (hv : ∀ rs, v ≠ .arr rs) :
    ofPayload task data =
      .error (.invalidArgument ("'" ++ task.rootField ++ "' must be an array")) := by
  cases v with
  | arr rs => exact absurd rfl (hv rs)
  | _ => simp only [ofPayload, h]

theorem ofPayload_of_objects {rs : List Json} (h : data.get? task.rootField = some (.arr rs))
    (hall : ∀ r ∈ rs, r.isObject = true) : ofPayload task data = .ok ⟨task, rs⟩ := by
  have hnone : firstNonObject rs 0 = none := by
    rw [firstNonObject_eq, Option.map_eq_none_iff, List.findIdx?_eq_none_iff]
    intro r hr
    simp [hall r hr]
  simp only [ofPayload, h, hnone]

theorem ofPayload_of_first_non_object {rs : List Json}
    (h : data.get? task.rootField = some (.arr rs))
    {i : Nat} (hi : i < rs.length) (hnot : rs[i].isObject = false)
    (hbefore : ∀ j (hj : j < i), rs[j].isObject = true) :
    ofPayload task data = .error (.invalidArgument
      ("'" ++ task.rootField ++ "[" ++ toString i ++ "]' must be an object")) := by
  have hfirst : firstNonObject rs 0 = some i := by
    rw [firstNonObject_eq, List.findIdx?_eq_some_iff_getElem.2 ⟨hi, by simp [hnot],
      fun j hj => by simp [hbefore j hj]⟩]
    rfl
  simp only [ofPayload, h, hfirst]

/-- **A payload gives a batch exactly when the task's member is an array of objects**, and the
batch is that array's, for the task. -/
theorem ofPayload_eq_ok_iff (b : RecordBatch) :
    ofPayload task data = .ok b ↔
      ∃ rs, data.get? task.rootField = some (.arr rs) ∧ (∀ r ∈ rs, r.isObject = true) ∧
        b = ⟨task, rs⟩ := by
  constructor
  · intro hok
    cases hget : data.get? task.rootField with
    | none => simp [ofPayload_of_get?_none hget] at hok
    | some v =>
    cases v with
    | arr rs =>
      cases hf : rs.findIdx? (fun r => !r.isObject) with
      | none =>
        have hall : ∀ r ∈ rs, r.isObject = true := fun r hr => by
          simpa using List.findIdx?_eq_none_iff.1 hf r hr
        rw [ofPayload_of_objects hget hall, Except.ok.injEq] at hok
        exact ⟨rs, rfl, hall, hok.symm⟩
      | some i =>
        obtain ⟨hi, hnot, hbefore⟩ := List.findIdx?_eq_some_iff_getElem.1 hf
        rw [ofPayload_of_first_non_object hget hi (by simpa using hnot)
          (fun j hj => by simpa using hbefore j hj)] at hok
        cases hok
    | _ => simp [ofPayload_of_not_arr hget (fun _ => Json.noConfusion)] at hok
  · rintro ⟨rs, hget, hall, rfl⟩
    exact ofPayload_of_objects hget hall

end Payload

end RecordBatch

theorem Json.stringFields?_ofFields (ms : List (String × Json)) (names : List String) :
    (Json.ofFields ms).stringFields? names =
      names.mapM fun n => ((Json.ofFields ms).get? n).bind Json.getStr? := rfl

theorem WriteParams.ofJson?_toJson (ps : WriteParams) :
    WriteParams.ofJson? (WorkflowParams.write ps).toJson = some ps := by
  simp [WriteParams.ofJson?, WorkflowParams.toJson, Json.stringFields?_ofFields, Json.get?_ofFields,
    Json.getStr?]

theorem runTask_write (ps : WriteParams) (q : Plane) :
    (Plane.runTask .write (WorkflowParams.write ps).toJson).run q =
      (some (Json.ofFields [("records", Json.nat (countRecords ps.messages))]), q) := by
  simp only [Plane.runTask, WriteParams.ofJson?_toJson]
  rfl

namespace Plane

variable {p : Plane}

/-- **The write workflow counts what `writeRecords` took from the payload**: the request fails
and keeps the plane, or it is the submission of write parameters whose workflow answers the
length of the payload's batch. -/
theorem writeRecords_counted (owner : Owner) (name : String) (task : ModelTask) (data : Json) :
    (∃ err, (writeRecords owner name task data).run.run p = (.error err, p)) ∨
    ∃ b o ps q, RecordBatch.ofPayload task data = .ok b ∧
      (writeRecords owner name task data).run.run p = (submit o (.write ps)).run.run q ∧
      ∀ q', (runTask .write (WorkflowParams.write ps).toJson).run q' =
        (some (Json.ofFields [("records", Json.nat b.records.length)]), q') := by
  obtain hfail | ⟨id, c, b, d, -, -, -, hb, -, h⟩ :=
    writeRecords_run owner name task data (p := p)
  · exact .inl hfail
  · refine .inr ⟨b, _, _, _, hb, h, fun q' => ?_⟩
    rw [runTask_write, RecordBatch.countRecords_messages]

end Plane

/-- **Record batches reach the write workflow whole.** A payload gives a batch exactly when the
task's member is an array of objects, and is refused otherwise, naming the member or the first
record that is not an object; a batch's messages are one line per record, in order, each the
compact text of the record's message and ended by the only line feed it holds; and the write
workflow counts, from the submission of `writeRecords`, the length of the batch it took. -/
theorem record_batches_reach_the_write_handler :
    (∀ task data (b : RecordBatch), RecordBatch.ofPayload task data = .ok b ↔
      ∃ rs, data.get? task.rootField = some (.arr rs) ∧ (∀ r ∈ rs, r.isObject = true) ∧
        b = ⟨task, rs⟩) ∧
    (∀ task data, data.get? task.rootField = none →
      RecordBatch.ofPayload task data = .error (.invalidArgument
        ("task input array '" ++ task.rootField ++ "' is not found in the payload"))) ∧
    (∀ task data v, data.get? task.rootField = some v → (∀ rs, v ≠ .arr rs) →
      RecordBatch.ofPayload task data =
        .error (.invalidArgument ("'" ++ task.rootField ++ "' must be an array"))) ∧
    (∀ task data rs i, data.get? task.rootField = some (.arr rs) → ∀ (hi : i < rs.length),
      rs[i].isObject = false → (∀ j (hj : j < i), rs[j].isObject = true) →
      RecordBatch.ofPayload task data = .error (.invalidArgument
        ("'" ++ task.rootField ++ "[" ++ toString i ++ "]' must be an object"))) ∧
    (∀ (b : RecordBatch) t,
      (b.messages t).toList = (b.records.map fun r =>
        (RecordBatch.recordMessage b.task t r).compact.toList).flatMap (· ++ ['\n']) ∧
      (∀ r, '\n' ∉ (RecordBatch.recordMessage b.task t r).compact.toList) ∧
      (b.messages t).toList.splitOn '\n' =
        b.records.map (fun r => (RecordBatch.recordMessage b.task t r).compact.toList) ++ [[]] ∧
      countRecords (b.messages t) = b.records.length) ∧
    ∀ (p : Plane) owner name task data,
      (∃ err, (Plane.writeRecords owner name task data).run.run p = (.error err, p)) ∨
      ∃ b o ps q, RecordBatch.ofPayload task data = .ok b ∧
        (Plane.writeRecords owner name task data).run.run p =
          (Plane.submit o (.write ps)).run.run q ∧
        ∀ q', (Plane.runTask .write (WorkflowParams.write ps).toJson).run q' =
          (some (Json.ofFields [("records", Json.nat b.records.length)]), q') := by
  refine ⟨fun task data b => RecordBatch.ofPayload_eq_ok_iff b,
    fun task data h => RecordBatch.ofPayload_of_get?_none h,
    fun task data v h hv => RecordBatch.ofPayload_of_not_arr h hv,
    fun task data rs i h hi hnot hbefore =>
      RecordBatch.ofPayload_of_first_non_object h hi hnot hbefore,
    fun b t => ⟨RecordBatch.messages_toList b t, fun r => Json.newline_not_mem_compact _,
      RecordBatch.messages_lines b t, RecordBatch.countRecords_messages b t⟩,
    fun p owner name task data => Plane.writeRecords_counted (p := p) owner name task data⟩

end ConnectorPlane
