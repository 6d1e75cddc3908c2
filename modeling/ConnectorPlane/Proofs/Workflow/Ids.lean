import ConnectorPlane.Proofs.Service.Submissions

/-! # Workflow ids

A submission's workflow id is `<connector permalink>.<clock reading in ns>.<workflow suffix>`.
The permalink may hold dots and digits of its own, but the last two parts hold no dot, so the id
is read from the right: the suffix after the last dot, the reading before it, and the permalink
is what is left.

* `append_dot_inj`: text joined at a dot splits back there when no dot follows it;
* `intText_inj`, `dot_not_mem_intText`: a clock reading's decimal text gives the reading back and
  holds no dot; `WorkflowKind.suffix_injective`, `WorkflowKind.dot_not_mem_suffix`: the same of
  the suffixes;
* `workflowId_eq_iff`: workflow ids are injective;
* `Submission.NamedFor.id_eq_iff`, `Submission.NamedFor.container_eq_iff`: two named
  submissions share an id, and a container name, only when named for the same connector, clock
  reading and workflow;
* `workflow_ids_tell_submissions_apart`: with what `delete`, `connect` and `writeRecords` hand
  the engine, the dispatcher gives distinct ids and container names to any two submissions that
  differ in connector, clock reading or workflow.
-/

namespace ConnectorPlane

namespace WorkflowKind

theorem suffix_injective {k k' : WorkflowKind} (h : k.suffix = k'.suffix) : k = k' := by
  cases k <;> cases k' <;> first | rfl | simp [suffix] at h

theorem dot_not_mem_suffix (k : WorkflowKind) : '.' ∉ k.suffix.toList := by
  cases k <;> simp [suffix]

end WorkflowKind

theorem intText_toList (n : Int) : (toString n).toList =
    if n < 0 then '-' :: Nat.toDigits 10 n.natAbs else Nat.toDigits 10 n.natAbs := by
  cases n with
  | ofNat m =>
    show (Nat.repr m).toList = _
    simp [Nat.repr]
  | negSucc m =>
    show ("-" ++ (m + 1).repr).toList = _
    simp [Nat.repr, String.toList_append, Int.negSucc_lt_zero, Int.natAbs_negSucc]

theorem not_mem_toDigits {c : Char} (hc : c.isDigit = false) (m : Nat) :
    c ∉ Nat.toDigits 10 m := fun h => by
  rw [Nat.isDigit_of_mem_toDigits (by decide) (by decide) h] at hc
  cases hc

theorem dot_not_mem_intText (n : Int) : '.' ∉ (toString n).toList := by
  have hdigits := not_mem_toDigits (c := '.') (by decide)
  rw [intText_toList]
  split
  · simpa using hdigits n.natAbs
  · exact hdigits n.natAbs

/-- A clock reading's text gives the reading back: a sign a digit never is, then digits that
spell its magnitude. -/
theorem intText_inj {a b : Int} (h : (toString a).toList = (toString b).toList) : a = b := by
  have hspell : ∀ m n : Nat, Nat.toDigits 10 m = Nat.toDigits 10 n → m = n := fun m n hmn => by
    rw [← Nat.ofDigitChars_toDigits (b := 10) (n := m) (by decide) (by decide),
      ← Nat.ofDigitChars_toDigits (b := 10) (n := n) (by decide) (by decide), hmn]
  have hsign := not_mem_toDigits (c := '-') (by decide)
  rw [intText_toList, intText_toList] at h
  by_cases ha : a < 0 <;> by_cases hb : b < 0 <;> simp only [ha, hb, if_true, if_false] at h
  · have := hspell _ _ (List.cons.inj h).2
    omega
  · exact absurd (h ▸ List.mem_cons_self) (hsign b.natAbs)
  · exact absurd (h.symm ▸ List.mem_cons_self) (hsign a.natAbs)
  · have := hspell _ _ h
    omega

/-- Text joined at a dot splits back there, when nothing after that dot is one: the part after
the last dot is what the reversed text holds before its first dot. -/
theorem append_dot_inj {a b a' b' : List Char} (hb : '.' ∉ b) (hb' : '.' ∉ b')
    (h : a ++ '.' :: b = a' ++ '.' :: b') : a = a' ∧ b = b' := by
  have hlast : ∀ x y : List Char, '.' ∉ y →
      (x ++ '.' :: y).reverse.takeWhile (· != '.') = y.reverse := fun x y hy => by
    rw [List.reverse_append, List.reverse_cons, List.append_assoc, List.takeWhile_append_of_pos]
    · simp
    · intro c hc
      have hne : c ≠ '.' := fun hdot => hy (hdot ▸ List.mem_reverse.1 hc)
      simpa using hne
  have hbb : b = b' := by
    have := congrArg (fun l => l.reverse.takeWhile (· != '.')) h
    simp only [hlast a b hb, hlast a' b' hb'] at this
    exact List.reverse_inj.1 this
  subst hbb
  exact ⟨List.append_cancel_right h, rfl⟩

theorem workflowId_toList (permalink : String) (nanos : Int) (kind : WorkflowKind) :
    (workflowId permalink nanos kind).toList =
      (permalink.toList ++ '.' :: (toString nanos).toList) ++ '.' :: kind.suffix.toList := by
  simp [workflowId, String.toList_append]

/-- **Workflow ids are injective**: an id gives back its permalink, clock reading and workflow. -/
theorem workflowId_eq_iff {π π' : String} {n n' : Int} {k k' : WorkflowKind} :
    workflowId π n k = workflowId π' n' k' ↔ π = π' ∧ n = n' ∧ k = k' := by
  constructor
  · intro h
    have h' := congrArg String.toList h
    rw [workflowId_toList, workflowId_toList] at h'
    -- read from the right: the suffix, then the clock reading, hold no dot
    obtain ⟨hpre, hsuf⟩ :=
      append_dot_inj (WorkflowKind.dot_not_mem_suffix k) (WorkflowKind.dot_not_mem_suffix k') h'
    obtain ⟨hπ, hn⟩ := append_dot_inj (dot_not_mem_intText n) (dot_not_mem_intText n') hpre
    exact ⟨String.toList_inj.1 hπ, intText_inj hn,
      WorkflowKind.suffix_injective (String.toList_inj.1 hsuf)⟩
  · rintro ⟨rfl, rfl, rfl⟩
    rfl

namespace Submission.NamedFor

variable {s s' : Submission} {π π' : String} {n n' : Int}

theorem id_eq_iff (hs : s.NamedFor π n) (hs' : s'.NamedFor π' n') :
    s.options.id = s'.options.id ↔ π = π' ∧ n = n' ∧ s.kind = s'.kind := by
  rw [hs.id, hs'.id, workflowId_eq_iff]

theorem container_eq_iff (hs : s.NamedFor π n) (hs' : s'.NamedFor π' n') :
    s.payload.get? "container_name" = s'.payload.get? "container_name" ↔
      π = π' ∧ n = n' ∧ s.kind = s'.kind := by
  rw [hs.container, hs'.container, Option.some.injEq, Json.str.injEq, id_eq_iff hs hs']

end Submission.NamedFor

/-- **Workflow ids tell submissions apart.** A workflow id gives back the permalink, the clock
reading and the workflow it was made of, whatever dots and digits the permalink holds. `delete`,
`connect` and `writeRecords` each hand the engine at most one submission, named for the
connector the request read and the dispatcher's clock; two submissions so named that differ in
permalink, clock reading or workflow differ in workflow id and in container name. -/
theorem workflow_ids_tell_submissions_apart :
    (∀ π n k π' n' k', workflowId π n k = workflowId π' n' k' → π = π' ∧ n = n' ∧ k = k') ∧
    (∀ (p : Plane) (r : Recorder), p.engine = .recorder r →
      ∀ (owner : Owner) (type : ConnectorType) (name : String),
        (∃ r', ((Plane.delete owner type name).run.run p).2.engine = .recorder r' ∧
          r.Extends p.tables p.dispatcher.nanos .delete r') ∧
        (∃ r', ((Plane.connect owner type name).run.run p).2.engine = .recorder r' ∧
          r.Extends p.tables p.dispatcher.nanos .check r') ∧
        ∀ task data, ∃ r', ((Plane.writeRecords owner name task data).run.run p).2.engine =
          .recorder r' ∧ r.Extends p.tables p.dispatcher.nanos .write r') ∧
    ∀ (s s' : Submission) π π' n n', s.NamedFor π n → s'.NamedFor π' n' →
      (π ≠ π' ∨ n ≠ n' ∨ s.kind ≠ s'.kind) →
        s.options.id ≠ s'.options.id ∧
          s.payload.get? "container_name" ≠ s'.payload.get? "container_name" := by
  refine ⟨fun π n k π' n' k' h => workflowId_eq_iff.1 h, fun p r hp owner type name => ?_,
    fun s s' π π' n n' hs hs' hne => ?_⟩
  · exact ⟨Plane.delete_extends owner type name hp, Plane.connect_extends owner type name hp,
      fun task data => Plane.writeRecords_extends owner name task data hp⟩
  · -- equal ids, or equal container names, would give back equal permalinks, readings, workflows
    have hsame : ¬ (π = π' ∧ n = n' ∧ s.kind = s'.kind) := by
      rintro ⟨hπ, hn, hk⟩
      rcases hne with h | h | h
      · exact h hπ
      · exact h hn
      · exact h hk
    exact ⟨mt (hs.id_eq_iff hs').1 hsame, mt (hs.container_eq_iff hs').1 hsame⟩

end ConnectorPlane
