import ConnectorPlane.Proofs.Service.Writes

/-! # Two updates of one connector at once

`Plane.update` makes three calls to the store: it loads the connector, writes the change it
computed from what it loaded, and loads the connector again to answer. Each call is atomic, but
no lock is held across them, so the calls of another request may fall in between.

* `UpdateRequest.prepare`, `commit`, `reload`: the three calls; `update_eq_phases`: one after
  the other they are `update`.
* `UpdateStage`, `UpdateRequest.step`: a request as a machine that makes one call a step;
  `serve`: two requests served at once, in the order a schedule gives.
* `Race`: what holds at every point of two updates of one connector served at once.
* `Plane.concurrent_updates_merge_onto_what_they_loaded`: when both answer, the stored
  configuration is the later writer's patch merged onto what it loaded, which is the
  configuration before both or the earlier writer's; in the first case the earlier write is lost.
-/

namespace ConnectorPlane

open Listing

namespace Plane

/-- An update request: the connector it names and the fields it sends. -/
structure UpdateRequest where
  owner : Owner
  type : ConnectorType
  name : String
  description : Option String
  configuration : Option Json

namespace UpdateRequest

variable (q : UpdateRequest)

/-- The first call: load the connector and compute the change from it. -/
def prepare : PlaneM (String × ConnectorUpdate) := do
  let id ← ofExcept (Names.connectorId q.name)
  let existing ← load id q.owner q.type .full
  let configuration ← match q.configuration with
    | none => pure none
    | some patch => do
      unless patch.isObject do
        fail (.invalidArgument "configuration must be an object")
      let patch ← ofRegistry ((← get).registry.strip existing.definitionUid patch)
      pure (some ((existing.configuration.getD (.obj [])).mergePatch patch))
  let change : ConnectorUpdate := { description := q.description, configuration }
  if change.isEmpty then
    fail (.invalidArgument "update carries no fields")
  pure (id, change)

/-- The second call: write the change on the row of the connector's key, stamped now. -/
def commit (id : String) (change : ConnectorUpdate) : PlaneM Unit := do
  let t ← now
  modify fun p => { p with tables := p.tables.updateConnector id q.owner.permalink q.type change t }

/-- The third call: load the connector again and answer it masked. -/
def reload (id : String) : PlaneM Connector := do
  masked (← load id q.owner q.type .full)

theorem update_eq_phases : update q.owner q.type q.name q.description q.configuration =
    (q.prepare >>= fun r => q.commit r.1 r.2 >>= fun _ => q.reload r.1) := by
  obtain ⟨owner, type, name, description, configuration⟩ := q
  simp only [update, prepare, commit, reload, bind_assoc]
  congr 1; funext id; congr 1; funext existing
  -- `update` joins the rest of the request into each branch of its checks
  cases configuration with
  | none =>
    simp only [pure_bind]
    split <;> simp only [bind_assoc, pure_bind]
  | some patch =>
    dsimp only
    split
    · simp only [bind_assoc]
      congr 1; funext plane; congr 1; funext patch'
      simp only [pure_bind]
      split <;> simp only [bind_assoc, pure_bind]
    · -- a patch that is no object fails there, whatever follows
      rfl

end UpdateRequest

/-- How far an update request has come between its calls to the store: nothing loaded yet, the
connector of `id` loaded and `change` computed from it, the change written, refused before
writing, or written and answered. -/
inductive UpdateStage where
  | ready
  | loaded (id : String) (change : ConnectorUpdate)
  | written (id : String)
  | refused (e : ServiceError)
  | answered (r : Except ServiceError Connector)

namespace UpdateStage

def wrote : UpdateStage → Bool
  | written _ | answered _ => true
  | _ => false

/-- The answer of a request that is over. -/
def answer? : UpdateStage → Option (Except ServiceError Connector)
  | refused e => some (.error e)
  | answered r => some r
  | _ => none

def answeredOk : UpdateStage → Bool
  | answered (.ok _) => true
  | _ => false

theorem answeredOk_iff {s : UpdateStage} : s.answeredOk = true ↔ ∃ c, s = answered (.ok c) := by
  cases s with
  | answered r => cases r <;> simp [answeredOk]
  | _ => simp [answeredOk]

/-- The stages a request can be at after `n` calls. -/
def Fits (n : Nat) : UpdateStage → Prop
  | ready => n = 0
  | loaded _ _ => n = 1
  | written _ => n = 2
  | refused _ => 1 ≤ n
  | answered _ => 3 ≤ n

theorem Fits.two_le {s : UpdateStage} {n : Nat} (h : s.Fits n) (hw : s.wrote = true) : 2 ≤ n := by
  cases s with
  | written _ => exact Nat.le_of_eq h.symm
  | answered _ => exact Nat.le_of_succ_le h
  | _ => cases hw

end UpdateStage

/-- One call of a request to the store, from the stage it has reached; a request that is over
stays as it is. -/
def UpdateRequest.step (q : UpdateRequest) : UpdateStage → Plane → UpdateStage × Plane
  | .ready, p => match q.prepare.run.run p with
    | (.ok r, p') => (.loaded r.1 r.2, p')
    | (.error e, p') => (.refused e, p')
  | .loaded id change, p => (.written id, ((q.commit id change).run.run p).2)
  | .written id, p => (.answered ((q.reload id).run.run p).1, ((q.reload id).run.run p).2)
  | .refused e, p => (.refused e, p)
  | .answered r, p => (.answered r, p)

/-- Two requests served at once. At each turn of the schedule the first request (`true`) or the
second makes its next call. -/
def serve (a b : UpdateRequest) : List Bool → UpdateStage → UpdateStage → Plane →
    UpdateStage × UpdateStage × Plane
  | [], sa, sb, p => (sa, sb, p)
  | true :: s, sa, sb, p => serve a b s (a.step sa p).1 sb (a.step sa p).2
  | false :: s, sa, sb, p => serve a b s sa (b.step sb p).1 (b.step sb p).2

/-- The calls the other request has made, in a schedule, before call number `k` (from 0) of the
request `who`: all of its calls if `who` makes no such call. A request's call 0 is its load,
call 1 its write. -/
def callsBefore (who : Bool) : Nat → List Bool → Nat
  | _, [] => 0
  | k, t :: s => if t = who then (if k = 0 then 0 else callsBefore who (k - 1) s)
    else callsBefore who k s + 1

section Schedules

@[simp] theorem count_not_cons_self (t : Bool) (l : List Bool) :
    (t :: l).count (!t) = l.count (!t) := by
  simp

theorem count_map_not (l : List Bool) (b : Bool) : (l.map not).count b = l.count (!b) := by
  induction l with
  | nil => rfl
  | cons t l ih => cases t <;> cases b <;> simp [ih]

/-- Counted over a schedule and what follows it: once `who` has made call `k`, what follows does
not count. -/
theorem callsBefore_append (who : Bool) (k : Nat) (l m : List Bool) :
    callsBefore who k (l ++ m) = if k < l.count who then callsBefore who k l
      else l.count (!who) + callsBefore who (k - l.count who) m := by
  induction l generalizing k with
  | nil => simp
  | cons t l ih =>
    by_cases ht : t = who
    · subst ht
      rcases k with _ | k
      · simp [callsBefore]
      · simp only [callsBefore, List.cons_append, if_true, Nat.add_one_ne_zero, if_false,
          Nat.add_sub_cancel, ih, List.count_cons_self, List.count_cons]
        grind
    · have hw : t = !who := by cases t <;> cases who <;> simp_all
      subst hw
      simp only [callsBefore, List.cons_append, ih, List.count_cons]
      grind

theorem callsBefore_append_of_lt {who : Bool} {k : Nat} {l : List Bool} (h : k < l.count who)
    (m : List Bool) : callsBefore who k (l ++ m) = callsBefore who k l := by
  rw [callsBefore_append, if_pos h]

theorem callsBefore_le_count (who : Bool) (k : Nat) (l : List Bool) :
    callsBefore who k l ≤ l.count (!who) := by
  induction l generalizing k with
  | nil => simp [callsBefore]
  | cons t l ih =>
    by_cases ht : t = who
    · subst ht
      have := ih (k - 1)
      simp only [callsBefore, if_true, List.count_cons]
      split_ifs <;> simp_all
    · have hw : t = !who := by cases t <;> cases who <;> simp_all
      subst hw
      simp only [callsBefore, ht, if_false, List.count_cons_self]
      exact Nat.add_le_add_right (ih k) 1

/-- A call already made in `l` is preceded by no more of the other's calls than `l` holds. -/
theorem callsBefore_append_le (who : Bool) (k : Nat) {l : List Bool} (h : k < l.count who)
    (m : List Bool) : callsBefore who k (l ++ m) ≤ l.count (!who) := by
  rw [callsBefore_append_of_lt h]
  exact callsBefore_le_count who k l

theorem callsBefore_append_last (who : Bool) {k : Nat} {l : List Bool} (h : l.count who = k) :
    callsBefore who k (l ++ [who]) = l.count (!who) := by
  rw [callsBefore_append, if_neg (by omega), h, Nat.sub_self]
  simp [callsBefore]

theorem callsBefore_map_not (who : Bool) (k : Nat) (l : List Bool) :
    callsBefore who k (l.map not) = callsBefore (!who) k l := by
  induction l generalizing k with
  | nil => rfl
  | cons t l ih =>
    have ht : ((!t) = who) = (t = !who) := by cases t <;> cases who <;> decide
    simp only [List.map_cons, callsBefore, ih, ht]

theorem callsBefore_total (who : Bool) {k j : Nat} {l : List Bool} (hk : k < l.count who)
    (hj : j < l.count (!who)) : j < callsBefore who k l ∨ k < callsBefore (!who) j l := by
  induction l generalizing k j with
  | nil => simp at hk
  | cons t l ih =>
    by_cases ht : t = who
    · subst ht
      rcases k with _ | k
      · right
        simp [callsBefore]
      · rw [List.count_cons_self] at hk
        rw [count_not_cons_self] at hj
        rcases ih (k := k) (by omega) hj with h | h
        · left
          simpa [callsBefore] using h
        · right
          rw [callsBefore, if_neg (by simp)]
          omega
    · have hw : t = !who := by cases t <;> cases who <;> simp_all
      subst hw
      rcases j with _ | j
      · left
        simp [callsBefore]
      · rw [List.count_cons_self] at hj
        rw [List.count_cons, if_neg (by simp)] at hk
        rcases ih (j := j) hk (by omega) with h | h
        · left
          rw [callsBefore, if_neg ht]
          omega
        · right
          simpa [callsBefore] using h

end Schedules

end Plane

/-- The row of a connector's key, as the store reads it. -/
def Tables.rowAt (t : Tables) (id owner : String) (type : ConnectorType) : Option ConnectorRow :=
  t.connectors.find? (ConnectorRow.isAt id owner type)

/-- The row at a key is of the definition `u` and holds the configuration text `T`. -/
def Tables.HoldsAt (t : Tables) (id owner : String) (type : ConnectorType) (u : Uuid)
    (T : String) : Prop :=
  ∃ r, t.rowAt id owner type = some r ∧ r.definitionUid = u ∧ r.configuration = T

theorem Tables.rowAt_updateConnector (t : Tables) (id owner : String) (type : ConnectorType)
    (u : ConnectorUpdate) (now : Instant) :
    (t.updateConnector id owner type u now).rowAt id owner type =
      (t.rowAt id owner type).map (ConnectorRow.apply u now) := by
  have hpred : (ConnectorRow.isAt id owner type ∘ fun r =>
      if r.isAt id owner type = true then r.apply u now else r) = ConnectorRow.isAt id owner type := by
    funext r
    by_cases h : r.isAt id owner type = true
    · simp only [Function.comp_apply, h, ↓reduceIte]
      exact h
    · simp only [Function.comp_apply, h, Bool.false_eq_true, ↓reduceIte]
  rw [rowAt, rowAt, updateConnector, List.find?_map, hpred]
  cases hf : t.connectors.find? (ConnectorRow.isAt id owner type) with
  | none => rfl
  | some r => simp [List.find?_some hf]

theorem ConnectorRow.read_full {r : ConnectorRow} {c : Connector} (h : r.read .full = .ok c) :
    ∃ L, Stored.document r.configuration = .ok L ∧ c.configuration = some L ∧
      c.definitionUid = r.definitionUid := by
  simp only [ConnectorRow.read, View.isBasic, Bool.false_eq_true, ↓reduceIte,
    bind_eq_ok_iff] at h
  obtain ⟨conf, hconf, _, -, _, -, ⟨⟩⟩ := h
  obtain ⟨L, hL, rfl⟩ := Json.map_eq_ok.1 hconf
  exact ⟨L, hL, rfl, rfl⟩

namespace Plane

namespace UpdateRequest

variable {q : UpdateRequest} {p : Plane}

/-- **The first call**, with a patch: it fails and changes nothing, or it reads the row of the
connector's key and computes the patch less its masked credentials merged onto that row's
configuration. -/
theorem prepare_run {E : Json} (hE : q.configuration = some E) :
    (∃ e, q.prepare.run.run p = (.error e, p)) ∨
      ∃ id r L P, Names.connectorId q.name = .ok id ∧
        p.tables.rowAt id q.owner.permalink q.type = some r ∧
        Stored.document r.configuration = .ok L ∧ p.registry.strip r.definitionUid E = .ok P ∧
        q.prepare.run.run p =
          (.ok (id, { description := q.description, configuration := some (L.mergePatch P) }), p) := by
  cases hid : Names.connectorId q.name with
  | error e => exact .inl ⟨_, by rw [prepare, run_bind_error (run_ofExcept_error hid)]⟩
  | ok id =>
    cases hload : p.tables.getConnectorById id q.owner.permalink q.type .full with
    | error e =>
      exact .inl ⟨_, by rw [prepare, run_bind_ok (run_ofExcept_ok hid),
        run_bind_error (run_load_error hload)]⟩
    | ok c =>
      obtain ⟨r, hr, hread⟩ : ∃ r, p.tables.rowAt id q.owner.permalink q.type = some r ∧
          r.read .full = .ok c := by
        unfold Tables.getConnectorById Tables.findConnector at hload
        split at hload
        · exact ⟨_, ‹_›, hload⟩
        · cases hload
      obtain ⟨L, hL, hc, hu⟩ := ConnectorRow.read_full hread
      rw [prepare, run_bind_ok (run_ofExcept_ok hid), run_bind_ok (run_load hload), hE]
      dsimp only
      by_cases hobj : E.isObject = true
      · rw [if_pos hobj, run_bind_ok run_get, hu]
        cases hstrip : p.registry.strip r.definitionUid E with
        | error e => exact .inl ⟨_, run_bind_error (run_ofRegistry_error rfl)⟩
        | ok P =>
          refine .inr ⟨id, r, L, P, rfl, hr, hL, hstrip, ?_⟩
          rw [run_bind_ok (run_ofRegistry_ok rfl), pure_bind]
          simp only [hc, Option.getD_some, ConnectorUpdate.isEmpty, Option.isNone_some,
            Bool.and_false, Bool.false_and, Bool.false_eq_true, ↓reduceIte]
          rfl
      · exact .inl ⟨_, by rw [if_neg hobj, run_bind_error run_fail]⟩

/-- **The second call** writes the change on the row of the key, stamped with the clock. -/
theorem commit_run (id : String) (change : ConnectorUpdate) :
    (q.commit id change).run.run p =
      (.ok (), { p with clock := p.clock.read.2,
                        tables := p.tables.updateConnector id q.owner.permalink q.type change
                          p.clock.read.1 }) := by
  rw [commit, run_bind_ok run_now, run_modify]

/-- **The third call** changes nothing. -/
theorem reload_state (id : String) : ((q.reload id).run.run p).2 = p :=
  load_masked_state id q.owner q.type .full

end UpdateRequest

/-- **Served alone**, a request answers as `update` does and leaves the plane `update` leaves:
its three calls in a row are `update`. -/
theorem serve_alone (a b : UpdateRequest) (sb : UpdateStage) (p : Plane) :
    (serve a b [true, true, true] .ready sb p).1.answer? =
        some ((update a.owner a.type a.name a.description a.configuration).run.run p).1 ∧
      (serve a b [true, true, true] .ready sb p).2.2 =
        ((update a.owner a.type a.name a.description a.configuration).run.run p).2 := by
  rw [UpdateRequest.update_eq_phases]
  rcases h : a.prepare.run.run p with ⟨_ | ⟨id, change⟩, p₁⟩
  · -- refused before writing: the later turns pass
    rw [run_bind_error h]
    simp [serve, UpdateRequest.step, h, UpdateStage.answer?]
  · rw [run_bind_ok h, run_bind_ok (UpdateRequest.commit_run id change)]
    simp [serve, UpdateRequest.step, h, UpdateStage.answer?, UpdateRequest.commit_run]

/-! ## Two updates of one connector -/

/-- What a request with patch `P`, less its masked credentials, computes from what it loaded:
`P` merged onto the configuration `C` stored before both requests or, when it loaded `late`,
after the other's write (patch `P'`), onto that write as read back. -/
def MergedOnto (C P P' : Json) (late : Prop) [Decidable late] (M : Json) : Prop :=
  if late then ∃ L, Stored.document (C.mergePatch P').compact = .ok L ∧ M = L.mergePatch P
  else M = C.mergePatch P

section Race

variable (R : Registry) (id owner : String) (type : ConnectorType) (row : ConnectorRow)
  (C P P' : Json)

/-- What holds after the turns `done` (`true` the first request's) of two updates, at stages `s`
and `s'`, with patches `P` and `P'` less their masked credentials, served on the connector stored
in `row` at (id, owner, type), whose configuration is `C`. A request loaded late when the other
had made its first two calls, load and write, before its load. -/
structure Race (done : List Bool) (s s' : UpdateStage) (p : Plane) : Prop where
  registry : p.registry = R
  fits : s.Fits (done.count true)
  fits' : s'.Fits (done.count false)
  untouched : s.wrote = false → s'.wrote = false → p.tables.rowAt id owner type = some row
  first : s.wrote = true → s'.wrote = false →
    p.tables.HoldsAt id owner type row.definitionUid (C.mergePatch P).compact
  second : s'.wrote = true → s.wrote = false →
    p.tables.HoldsAt id owner type row.definitionUid (C.mergePatch P').compact
  both : s.wrote = true → s'.wrote = true → ∃ M,
    p.tables.HoldsAt id owner type row.definitionUid M.compact ∧
    (2 ≤ callsBefore true 1 done → MergedOnto C P P' (2 ≤ callsBefore true 0 done) M) ∧
    (2 ≤ callsBefore false 1 done → MergedOnto C P' P (2 ≤ callsBefore false 0 done) M)
  loaded : ∀ i change, s = .loaded i change → i = id ∧ ∃ M, change.configuration = some M ∧
    MergedOnto C P P' (2 ≤ callsBefore true 0 done ∧ s'.wrote = true) M
  loaded' : ∀ i change, s' = .loaded i change → i = id ∧ ∃ M, change.configuration = some M ∧
    MergedOnto C P' P (2 ≤ callsBefore false 0 done ∧ s.wrote = true) M

variable {R id owner type row C P P'} {done : List Bool} {s s' : UpdateStage} {p : Plane}

theorem Race.swap (h : Race R id owner type row C P P' done s s' p) :
    Race R id owner type row C P' P (done.map not) s' s p := by
  have hcount : ∀ b, (done.map not).count b = done.count (!b) := count_map_not done
  have hcalls : ∀ b k, callsBefore b k (done.map not) = callsBefore (!b) k done :=
    fun b k => callsBefore_map_not b k done
  refine ⟨h.registry, ?_, ?_, fun h₁ h₂ => h.untouched h₂ h₁, h.second, h.first,
    fun h₁ h₂ => ?_, ?_, ?_⟩
  · simpa [hcount] using h.fits'
  · simpa [hcount] using h.fits
  · obtain ⟨M, hM, hA, hB⟩ := h.both h₂ h₁
    exact ⟨M, hM, by simpa only [hcalls, Bool.not_true] using hB,
      by simpa only [hcalls, Bool.not_false] using hA⟩
  · simpa only [hcalls, Bool.not_true] using h.loaded'
  · simpa only [hcalls, Bool.not_false] using h.loaded

theorem Race.rest (h : Race R id owner type row C P P' done s s' p) {s₂ : UpdateStage}
    {p₂ : Plane} (hf : s₂.Fits (done.count true + 1)) (hw : s₂.wrote = s.wrote)
    (hl : ∀ i change, s₂ ≠ .loaded i change) (ht : p₂.tables = p.tables)
    (hr : p₂.registry = p.registry) :
    Race R id owner type row C P P' (done ++ [true]) s₂ s' p₂ where
  registry := hr.trans h.registry
  fits := by simpa using hf
  fits' := by simpa using h.fits'
  untouched h₁ h₂ := ht ▸ h.untouched (hw ▸ h₁) h₂
  first h₁ h₂ := ht ▸ h.first (hw ▸ h₁) h₂
  second h₁ h₂ := ht ▸ h.second h₁ (hw ▸ h₂)
  both h₁ h₂ := by
    have ha := h.fits.two_le (hw ▸ h₁)
    have hb := h.fits'.two_le h₂
    rw [callsBefore_append_of_lt (by omega), callsBefore_append_of_lt (by omega),
      callsBefore_append_of_lt (by omega), callsBefore_append_of_lt (by omega)]
    exact ht ▸ h.both (hw ▸ h₁) h₂
  loaded i change h₁ := absurd h₁ (hl i change)
  loaded' i change h₁ := by
    have hb : done.count false = 1 := by simpa [h₁, UpdateStage.Fits] using h.fits'
    rw [callsBefore_append_of_lt (by omega), hw]
    exact h.loaded' i change h₁

section Step

variable {a : UpdateRequest} {E : Json} (hE : a.configuration = some E)
  (hid : Names.connectorId a.name = .ok id) (hown : a.owner.permalink = owner)
  (htype : a.type = type) (hC : Stored.document row.configuration = .ok C)
  (hP : R.strip row.definitionUid E = .ok P)
include hE hid hown htype hC hP

/-- **Loading**: the change computed is the patch merged onto the row as it was, or, late, onto
the other's write. -/
theorem Race.load (h : Race R id owner type row C P P' done .ready s' p) :
    Race R id owner type row C P P' (done ++ [true]) (a.step .ready p).1 s'
      (a.step .ready p).2 := by
  have hn : done.count true = 0 := h.fits
  rcases UpdateRequest.prepare_run (p := p) hE with ⟨e, he⟩ | ⟨i, r, L, P₁, hi, hr, hL, hP₁, hrun⟩
  · simp only [UpdateRequest.step, he]
    exact h.rest (by simp [UpdateStage.Fits]) rfl (fun _ _ h => by cases h) rfl rfl
  · obtain rfl : i = id := by
      rw [hid] at hi
      cases hi
      rfl
    rw [hown, htype] at hr
    rw [h.registry] at hP₁
    have hlate : callsBefore true 0 (done ++ [true]) = done.count false :=
      callsBefore_append_last true hn
    have hM : MergedOnto C P P' (2 ≤ callsBefore true 0 (done ++ [true]) ∧ s'.wrote = true)
        (L.mergePatch P₁) := by
      rw [hlate]
      cases hw : s'.wrote with
      | false =>
        rw [h.untouched rfl hw, Option.some.injEq] at hr
        subst hr
        rw [hC, Except.ok.injEq] at hL
        rw [hP, Except.ok.injEq] at hP₁
        subst hL hP₁
        simp [MergedOnto]
      | true =>
        obtain ⟨r', hr', hu, hT⟩ := h.second hw rfl
        rw [hr', Option.some.injEq] at hr
        subst hr
        rw [hu, hP, Except.ok.injEq] at hP₁
        subst hP₁
        rw [MergedOnto, if_pos ⟨h.fits'.two_le hw, rfl⟩]
        exact ⟨L, hT ▸ hL, rfl⟩
    simp only [UpdateRequest.step, hrun]
    refine ⟨h.registry, by simp [UpdateStage.Fits, hn], by simpa using h.fits', h.untouched,
      fun h₁ => absurd h₁ Bool.false_ne_true, h.second, fun h₁ => absurd h₁ Bool.false_ne_true,
      fun i change h₁ => ?_, fun i change h₁ => ?_⟩
    · cases h₁
      exact ⟨rfl, _, rfl, hM⟩
    · obtain ⟨hi, M, hch, hM'⟩ := h.loaded' i change h₁
      exact ⟨hi, M, hch, by simpa [MergedOnto, UpdateStage.wrote] using hM'⟩

omit hE hC hP in
/-- **Writing**: the row takes the change computed. Written second, it holds the last write. -/
theorem Race.commit {i : String} {change : ConnectorUpdate}
    (h : Race R id owner type row C P P' done (.loaded i change) s' p) :
    Race R id owner type row C P P' (done ++ [true]) (a.step (.loaded i change) p).1 s'
      (a.step (.loaded i change) p).2 := by
  obtain ⟨rfl, M, hch, hM⟩ := h.loaded i change rfl
  have hn : done.count true = 1 := h.fits
  have hrow : ((a.commit i change).run.run p).2.tables.rowAt i owner type =
      (p.tables.rowAt i owner type).map (ConnectorRow.apply change p.clock.read.1) := by
    rw [UpdateRequest.commit_run, ← hown, ← htype]
    exact Tables.rowAt_updateConnector ..
  have happly : ∀ r, p.tables.rowAt i owner type = some r → r.definitionUid = row.definitionUid →
      ((a.commit i change).run.run p).2.tables.HoldsAt i owner type row.definitionUid M.compact :=
    fun r hr hu => ⟨r.apply change p.clock.read.1, by rw [hrow, hr]; rfl, hu,
      by simp [ConnectorRow.apply, hch]⟩
  have hreg : ((a.commit i change).run.run p).2.registry = R := by
    rw [UpdateRequest.commit_run]
    exact h.registry
  have hfits : (UpdateStage.written i).Fits ((done ++ [true]).count true) := by
    simp [UpdateStage.Fits, hn]
  simp only [UpdateRequest.step]
  cases hw : s'.wrote with
  | false =>
    have hM0 : M = C.mergePatch P := by simpa [hw, MergedOnto] using hM
    refine ⟨hreg, hfits, by simpa using h.fits', fun h₁ => by simp [UpdateStage.wrote] at h₁,
      fun _ _ => ?_, fun h₁ => by simp [hw] at h₁, fun _ h₂ => by simp [hw] at h₂,
      fun _ _ h₁ => (by cases h₁), fun i' change' h₁ => ?_⟩
    · rw [← hM0]
      exact happly row (h.untouched rfl hw) rfl
    · -- the other loaded before this write, so not late
      obtain ⟨hi, M', hch', hM'⟩ := h.loaded' i' change' h₁
      have hb : done.count false = 1 := by simpa [h₁, UpdateStage.Fits] using h.fits'
      have hearly : ¬ 2 ≤ callsBefore false 0 (done ++ [true]) := by
        have : callsBefore false 0 (done ++ [true]) ≤ done.count true :=
          callsBefore_append_le false 0 (by omega) [true]
        omega
      exact ⟨hi, M', hch', by simpa [MergedOnto, hearly, UpdateStage.wrote] using hM'⟩
  | true =>
    obtain ⟨r, hr, hu, -⟩ := h.second hw rfl
    have hb := h.fits'.two_le hw
    refine ⟨hreg, hfits, by simpa using h.fits', fun h₁ => by simp [UpdateStage.wrote] at h₁,
      fun _ h₂ => by simp [hw] at h₂, fun _ h₂ => by simp [UpdateStage.wrote] at h₂,
      fun _ _ => ⟨M, happly r hr hu, fun _ => ?_, fun h₁ => ?_⟩, fun _ _ h₁ => (by cases h₁),
      fun i' change' h₁ => by simp [h₁, UpdateStage.wrote] at hw⟩
    · rw [callsBefore_append_of_lt (by omega)]
      simpa [hw] using hM
    · -- the other wrote first
      have : callsBefore false 1 (done ++ [true]) ≤ done.count true :=
        callsBefore_append_le false 1 (by omega) [true]
      omega

/-- **One call** of the first request keeps the race. -/
theorem Race.step (h : Race R id owner type row C P P' done s s' p) :
    Race R id owner type row C P P' (done ++ [true]) (a.step s p).1 s' (a.step s p).2 := by
  have hf := h.fits
  cases s with
  | ready => exact h.load hE hid hown htype hC hP
  | loaded i change => exact h.commit hid hown htype
  | written i =>
    exact h.rest (by simp only [UpdateRequest.step, UpdateStage.Fits] at hf ⊢; omega) rfl (fun _ _ h => by cases h)
      (congrArg Plane.tables (UpdateRequest.reload_state i))
      (congrArg Plane.registry (UpdateRequest.reload_state i))
  | refused e =>
    exact h.rest (by simp only [UpdateRequest.step, UpdateStage.Fits] at hf ⊢; omega) rfl (fun _ _ h => by cases h)
      rfl rfl
  | answered r =>
    exact h.rest (by simp only [UpdateRequest.step, UpdateStage.Fits] at hf ⊢; omega) rfl (fun _ _ h => by cases h)
      rfl rfl

end Step

/-- **Every schedule** of two updates patching one connector keeps the race. -/
theorem Race.serve {owner : Owner} {name : String} {da db : Option String} {E E' : Json}
    (hid : Names.connectorId name = .ok id) (hC : Stored.document row.configuration = .ok C)
    (hP : R.strip row.definitionUid E = .ok P) (hP' : R.strip row.definitionUid E' = .ok P')
    (sched : List Bool) :
    ∀ {done : List Bool} {s s' : UpdateStage} {p : Plane} {w : UpdateStage × UpdateStage × Plane},
      Race R id owner.permalink type row C P P' done s s' p →
      Plane.serve ⟨owner, type, name, da, some E⟩ ⟨owner, type, name, db, some E'⟩ sched s s' p = w →
      Race R id owner.permalink type row C P P' (done ++ sched) w.1 w.2.1 w.2.2 := by
  induction sched with
  | nil =>
    intro done s s' p w h hw
    rw [← hw, List.append_nil]
    exact h
  | cons turn sched ih =>
    intro done s s' p w h hw
    rw [← List.singleton_append, ← List.append_assoc]
    -- the second request's turn is the first's, with the two sides swapped
    cases turn with
    | true =>
      rw [Plane.serve] at hw
      exact ih (h.step (a := ⟨owner, type, name, da, some E⟩) rfl hid rfl rfl hC hP) hw
    | false =>
      rw [Plane.serve] at hw
      have h' := (h.swap.step (a := ⟨owner, type, name, db, some E'⟩) rfl hid rfl rfl hC hP').swap
      rw [List.map_append, List.map_map] at h'
      simp only [Function.comp_def, Bool.not_not, List.map_id', List.map_cons, Bool.not_true,
        List.map_nil] at h'
      exact ih h' hw

end Race

/-- **Two updates of one connector at once.** Whatever the schedule `sched` in which the calls of
two updates with object patches `Ea` and `Eb` interleave (`true` a call of the first), once both
have answered, one of them wrote last, and the row holds its patch, less its masked credentials,
merged onto what it loaded: the configuration `C` stored before both, if it loaded before the
other wrote, else the other's result as read back. The first request wrote last when the second
made its load and write before the first's write (`2 ≤ callsBefore true 1 sched`), and it loaded
late when they came before its load (`2 ≤ callsBefore true 0 sched`). When both loads come
before both writes, the earlier write is lost. -/
theorem concurrent_updates_merge_onto_what_they_loaded {owner : Owner} {type : ConnectorType}
    {name id : String} {da db : Option String} {Ea Eb : Json} {row : ConnectorRow}
    {C Pa Pb : Json} {p : Plane} (hid : Names.connectorId name = .ok id)
    (hrow : p.tables.rowAt id owner.permalink type = some row)
    (hC : Stored.document row.configuration = .ok C)
    (hPa : p.registry.strip row.definitionUid Ea = .ok Pa)
    (hPb : p.registry.strip row.definitionUid Eb = .ok Pb) (sched : List Bool)
    {ca cb : Connector} {q : Plane}
    (hrun : serve ⟨owner, type, name, da, some Ea⟩ ⟨owner, type, name, db, some Eb⟩ sched
      .ready .ready p = (.answered (.ok ca), .answered (.ok cb), q)) :
    ∃ r M, q.tables.rowAt id owner.permalink type = some r ∧ r.configuration = M.compact ∧
      (2 ≤ callsBefore true 1 sched ∨ 2 ≤ callsBefore false 1 sched) ∧
      (2 ≤ callsBefore true 1 sched → MergedOnto C Pa Pb (2 ≤ callsBefore true 0 sched) M) ∧
      (2 ≤ callsBefore false 1 sched → MergedOnto C Pb Pa (2 ≤ callsBefore false 0 sched) M) := by
  have hstart : Race p.registry id owner.permalink type row C Pa Pb [] .ready .ready p :=
    ⟨rfl, rfl, rfl, fun _ _ => hrow, fun h₁ => (by cases h₁), fun h₁ => (by cases h₁),
      fun h₁ => (by cases h₁), fun _ _ h₁ => (by cases h₁), fun _ _ h₁ => (by cases h₁)⟩
  have hend := Race.serve hid hC hPa hPb sched hstart hrun
  rw [List.nil_append] at hend
  obtain ⟨M, ⟨r, hr, -, hT⟩, hA, hB⟩ := hend.both rfl rfl
  have ha : 3 ≤ sched.count true := hend.fits
  have hb : 3 ≤ sched.count false := hend.fits'
  exact ⟨r, M, hr, hT, callsBefore_total true (by omega) (by rw [Bool.not_true]; omega), hA, hB⟩

/-- A patch of `notedConnector` that sets a port. -/
def portRequest : UpdateRequest :=
  ⟨notedOwner, .destination, "connectors/db", none, some (.obj [("port", .str "1")])⟩

/-- A patch of `notedConnector` that sets a user. -/
def userRequest : UpdateRequest :=
  ⟨notedOwner, .destination, "connectors/db", none, some (.obj [("user", .str "u")])⟩

/-- Served one after the other, both patches of `notedConnector` reach its row: the user's patch
is merged onto the port's result as read back. -/
theorem serial_updates_keep_both_patches :
    ∃ r L, (serve portRequest userRequest [true, true, true, false, false, false] .ready .ready
        notedPlane).2.2.tables.rowAt "db" notedOwner.permalink .destination = some r ∧
      Stored.document ((Json.obj notedFields).mergePatch (.obj [("port", .str "1")])).compact =
        .ok L ∧
      r.configuration = (L.mergePatch (.obj [("user", .str "u")])).compact := by
  have hid : Names.connectorId "connectors/db" = .ok "db" := by decide
  have hC : Stored.document notedConnector.toRow.configuration = .ok (.obj notedFields) := by
    with_unfolding_all rfl
  have hPa : notedPlane.registry.strip notedConnector.toRow.definitionUid
      (.obj [("port", .str "1")]) = .ok (.obj [("port", .str "1")]) := by
    with_unfolding_all rfl
  have hPb : notedPlane.registry.strip notedConnector.toRow.definitionUid
      (.obj [("user", .str "u")]) = .ok (.obj [("user", .str "u")]) := by
    with_unfolding_all rfl
  obtain ⟨ca, hca⟩ := UpdateStage.answeredOk_iff.1 (show (serve portRequest userRequest
    [true, true, true, false, false, false] .ready .ready notedPlane).1.answeredOk = true by
      decide +kernel)
  obtain ⟨cb, hcb⟩ := UpdateStage.answeredOk_iff.1 (show (serve portRequest userRequest
    [true, true, true, false, false, false] .ready .ready notedPlane).2.1.answeredOk = true by
      decide +kernel)
  have hrun : serve portRequest userRequest [true, true, true, false, false, false] .ready .ready
      notedPlane = (.answered (.ok ca), .answered (.ok cb), (serve portRequest userRequest
        [true, true, true, false, false, false] .ready .ready notedPlane).2.2) := by
    rw [← hca, ← hcb]
  obtain ⟨r, M, hr, hT, -, -, hlast⟩ :=
    concurrent_updates_merge_onto_what_they_loaded hid rfl hC hPa hPb _ hrun
  -- the user's request wrote last, after loading the port's write
  have hlate := hlast (by decide)
  rw [MergedOnto, if_pos (by decide)] at hlate
  obtain ⟨L, hL, rfl⟩ := hlate
  exact ⟨r, L, hr, hL, hT⟩

/-- Two patches whose loads both come before either write: both answer, and the row holds the
second patch merged onto the configuration before both, which is neither of the two updates
one after the other; the first patch is lost. -/
theorem interleaved_updates_lose_the_first_patch :
    notedPlane.registry.strip (Uuid.ofNat 7) (.obj [("port", .str "1")]) =
      .ok (.obj [("port", .str "1")]) ∧
      notedPlane.registry.strip (Uuid.ofNat 7) (.obj [("user", .str "u")]) =
        .ok (.obj [("user", .str "u")]) ∧
      (serve portRequest userRequest [true, false, true, false, true, false] .ready .ready
        notedPlane).1.answeredOk = true ∧
      (serve portRequest userRequest [true, false, true, false, true, false] .ready .ready
        notedPlane).2.1.answeredOk = true ∧
      ((serve portRequest userRequest [true, false, true, false, true, false] .ready .ready
        notedPlane).2.2.tables.rowAt "db" notedOwner.permalink .destination).map
          (·.configuration) =
        some ((Json.obj notedFields).mergePatch (.obj [("user", .str "u")])).compact ∧
      ((Json.obj notedFields).mergePatch (.obj [("user", .str "u")])).compact ≠
        (((Json.obj notedFields).mergePatch (.obj [("port", .str "1")])).mergePatch
          (.obj [("user", .str "u")])).compact ∧
      ((Json.obj notedFields).mergePatch (.obj [("user", .str "u")])).compact ≠
        (((Json.obj notedFields).mergePatch (.obj [("user", .str "u")])).mergePatch
          (.obj [("port", .str "1")])).compact := by
  refine ⟨by with_unfolding_all rfl, by with_unfolding_all rfl, ?_⟩
  decide +kernel

end Plane

end ConnectorPlane
