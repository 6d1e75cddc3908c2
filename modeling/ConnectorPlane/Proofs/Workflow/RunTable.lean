import ConnectorPlane.Workflow.Engine
import Mathlib.Data.List.Nodup
import Mathlib.Data.List.Perm.Basic

/-!
# The embedded engine's run table under concurrent use

Submissions, the background runs they start, waiters and pruning share the engine's run table,
each step holding it alone. `RunTable` is that shared state: the engine, the background runs in
flight, and, as history, what submitters and waiters were handed. `TableStep` says what one step
can do, and `RunTable.serve` takes the table through any schedule of steps.

`RunTable.Kept` is what every step keeps: one entry per workflow id; every background run in
flight finds its own entry, still running; each entry carries the run id of the last submission
accepted for its workflow id; and the runs handed to waiters, with those the table still holds,
are among the accepted submissions, each at most once. From it, over every schedule
(`run_table_safe`): a submission for a tracked id, another queue or another retry policy is
refused and changes nothing; a run in flight keeps its entry until its own background run ends;
a waiter is handed the run id its submission was given, and each submission's run at most once;
pruning drops no running run.
-/

namespace ConnectorPlane

theorem key_ne_of_mem_eraseIdx {α β : Type} {f : α → β} {l : List α} {n : Nat} {a b : α}
    (hn : (l.map f).Nodup) (ha : l[n]? = some a) (hb : b ∈ l.eraseIdx n) : f b ≠ f a := by
  intro hab
  obtain ⟨i, hi, hbi⟩ := List.mem_eraseIdx_iff_getElem?.1 hb
  have h1 : (l.map f)[i]? = some (f a) := by simp [hbi, hab]
  have h2 : (l.map f)[n]? = some (f a) := by simp [ha]
  have hi' : i < (l.map f).length := (List.getElem?_eq_some_iff.1 h1).1
  have hn' : n < (l.map f).length := (List.getElem?_eq_some_iff.1 h2).1
  rcases Nat.lt_or_gt_of_ne hi with h | h
  · exact List.nodup_iff_getElem?_ne_getElem?.1 hn i n h hn' (h1.trans h2.symm)
  · exact List.nodup_iff_getElem?_ne_getElem?.1 hn n i h hi' (h2.trans h1.symm)

theorem nodup_map_append_singleton {α β : Type} {f : α → β} {l : List α} {b : α}
    (hn : (l.map f).Nodup) (hb : ∀ a ∈ l, f a ≠ f b) : ((l ++ [b]).map f).Nodup := by
  have hfresh : f b ∉ l.map f := by
    simp only [List.mem_map, not_exists, not_and]
    exact hb
  simpa [List.concat_eq_append] using hn.concat hfresh

/-- The workflow and run ids of a run, as its submission was answered. -/
def Run.workflowRun (r : Run) : WorkflowRun := ⟨r.workflowId, r.runId⟩

namespace Pipeline

variable {p : Pipeline} {r : Run} {x : String}

/-- The engine tracks one run per workflow id. -/
def UniqueIds (p : Pipeline) : Prop := (p.runs.map (·.workflowId)).Nodup

/-! ## The run table as a map -/

theorem isSome_run?_iff : (p.run? x).isSome ↔ ∃ r ∈ p.runs, r.workflowId = x := by
  simp [run?, List.find?_isSome]

theorem run?_eq_some_iff (hk : p.UniqueIds) : p.run? x = some r ↔ r ∈ p.runs ∧ r.workflowId = x := by
  constructor
  · intro h
    exact ⟨List.mem_of_find?_eq_some h, by simpa using List.find?_some h⟩
  · rintro ⟨hr, rfl⟩
    obtain ⟨r', hr'⟩ := Option.isSome_iff_exists.1 (isSome_run?_iff.2 ⟨r, hr, rfl⟩)
    have hkey : r'.workflowId = r.workflowId := by simpa using List.find?_some hr'
    rw [hr', List.inj_on_of_nodup_map hk (List.mem_of_find?_eq_some hr') hr hkey]

theorem workflowId_ne_of_run?_eq_none (hfree : p.run? x = none) (hr : r ∈ p.runs) :
    r.workflowId ≠ x := by
  intro hrx
  have := isSome_run?_iff.2 ⟨r, hr, hrx⟩
  simp [hfree] at this

@[simp] theorem mem_forget : r ∈ (p.forget x).runs ↔ r ∈ p.runs ∧ r.workflowId ≠ x := by
  simp [forget]

theorem uniqueIds_forget (hk : p.UniqueIds) : (p.forget x).UniqueIds :=
  hk.sublist (List.filter_sublist.map _)

theorem perm_forget (hk : p.UniqueIds) (hr : r ∈ p.runs) :
    p.runs.Perm ((p.forget r.workflowId).runs ++ [r]) := by
  have hnd' : ((p.forget r.workflowId).runs ++ [r]).Nodup := by
    refine List.nodup_append.2 ⟨(uniqueIds_forget hk).of_map _, List.nodup_singleton r, ?_⟩
    rintro a ha b hb rfl
    exact (mem_forget.1 ha).2 (by rw [List.mem_singleton.1 hb])
  refine (List.perm_ext_iff_of_nodup (hk.of_map _) hnd').2 fun a => ⟨fun ha => ?_, fun ha => ?_⟩
  · by_cases hax : a.workflowId = r.workflowId
    · simp [List.inj_on_of_nodup_map hk ha hr hax]
    · exact List.mem_append_left _ (mem_forget.2 ⟨ha, hax⟩)
  · rcases List.mem_append.1 ha with ha | ha
    · exact (mem_forget.1 ha).1
    · rwa [List.mem_singleton.1 ha]

theorem prune_sublist (p : Pipeline) (limit : Nat) : (p.prune limit).runs.Sublist p.runs := by
  unfold prune
  split
  · exact List.filter_sublist
  · exact List.Sublist.refl _

theorem mem_prune_of_running (hr : r ∈ p.runs) (hrun : r.status = .running) (limit : Nat) :
    r ∈ (p.prune limit).runs := by
  unfold prune
  split
  · simp [hr, hrun, RunStatus.isRunning]
  · exact hr

/-! ## What each operation does -/

variable {o : StartOptions} {kind : WorkflowKind} {payload : Json} {runId : String}

/-- A submission to an engine whose workflows are not registered, for a tracked id, or for
another queue or retry policy is refused. -/
theorem start_refused (kind : WorkflowKind) (payload : Json) (runId : String)
    (h : p.registered = false ∨ (p.run? o.id).isSome ∨ o.taskQueue ≠ p.taskQueue ∨
      o.maximumAttempts ≠ 1) :
    ∃ e, p.start o kind payload runId = .error e := by
  unfold start
  cases hreg : p.registered
  · exact ⟨_, rfl⟩
  by_cases hq : o.taskQueue ≠ p.taskQueue
  · rw [if_pos hq]
    exact ⟨_, rfl⟩
  rw [if_neg hq]
  by_cases ha : o.maximumAttempts ≠ 1
  · rw [if_pos ha]
    exact ⟨_, rfl⟩
  rw [if_neg ha]
  have htracked : (p.run? o.id).isSome := by simp_all
  rw [if_pos htracked]
  exact ⟨_, rfl⟩

theorem start_of_free (hreg : p.registered = true) (hq : o.taskQueue = p.taskQueue)
    (ha : o.maximumAttempts = 1) (hfree : p.run? o.id = none) :
    p.start o kind payload runId = .ok (⟨o.id, runId⟩, { p.prune maxTrackedRuns with
      runs := (p.prune maxTrackedRuns).runs ++ [⟨o.id, runId, kind, payload, .running⟩],
      runIds := (p.prune maxTrackedRuns).runIds ++ [runId] }) := by
  unfold start
  rw [hreg, if_neg (not_not.2 hq), if_neg (not_not.2 ha), hfree]
  rfl

/-- An accepted submission is answered with its id and run id, was for an untracked id, and
adds its run, running, to the table its pruning left. -/
theorem start_eq_ok {wr : WorkflowRun} {p' : Pipeline}
    (h : p.start o kind payload runId = .ok (wr, p')) :
    wr = ⟨o.id, runId⟩ ∧ p.run? o.id = none ∧
      p'.runs = (p.prune maxTrackedRuns).runs ++ [⟨o.id, runId, kind, payload, .running⟩] := by
  have hok : ¬(p.registered = false ∨ (p.run? o.id).isSome ∨ o.taskQueue ≠ p.taskQueue ∨
      o.maximumAttempts ≠ 1) := by
    intro hr
    obtain ⟨e, he⟩ := start_refused kind payload runId hr
    rw [he] at h
    cases h
  simp only [not_or, Bool.not_eq_false, ne_eq, not_not] at hok
  obtain ⟨hreg, htracked, hq, ha⟩ := hok
  have hfree := Option.not_isSome_iff_eq_none.1 htracked
  rw [start_of_free hreg hq ha hfree] at h
  cases h
  exact ⟨rfl, hfree, rfl⟩

@[simp] theorem finish_runs (p : Pipeline) (run : Run) (status : RunStatus) :
    (p.finish run status).runs = (p.forget run.workflowId).runs ++ [{ run with status }] := rfl

/-- A waiter finds nothing, finds the run still running, or takes the run that ended, and the
engine then forgets it. -/
theorem poll_eq (p : Pipeline) (x : String) :
    p.poll x = (.missing, p) ∨ p.poll x = (.running, p) ∨
      ∃ r, p.run? x = some r ∧ r.status.isRunning = false ∧ p.poll x = (.taken r, p.forget x) := by
  unfold poll
  split
  · exact .inl rfl
  · rename_i r hr
    by_cases hrun : r.status.isRunning
    · exact .inr (.inl (by simp [hrun]))
    · exact .inr (.inr ⟨r, hr, by simpa using hrun, by simp [hrun]⟩)

theorem poll_eq_taken (h : (p.poll x).1 = .taken r) :
    p.run? x = some r ∧ r.status.isRunning = false ∧ (p.poll x).2 = p.forget x := by
  rcases p.poll_eq x with he | he | ⟨r', hr', hend, he⟩ <;> rw [he] at h ⊢ <;> cases h
  exact ⟨hr', hend, rfl⟩

end Pipeline

/-- The embedded engine's run table as submitters, background runs, waiters and pruning share
it: the engine, the background runs in flight, and, as history, the answers of the accepted
submissions and the runs handed to waiters, oldest first. -/
structure RunTable where
  engine : Pipeline
  inFlight : List Run
  started : List WorkflowRun
  taken : List WorkflowRun

/-- One step on the run table, taken while holding it alone. -/
inductive TableStep where
  /-- A submission; `runId` is the id drawn for its run. -/
  | submit (o : StartOptions) (kind : WorkflowKind) (payload : Json) (runId : String)
  /-- The `n`-th background run in flight ends with `status`. -/
  | finish (n : Nat) (status : RunStatus)
  /-- A waiter looks for the run of a workflow id. -/
  | poll (workflowId : String)
  /-- The finished runs are dropped once `limit` runs are tracked. -/
  | prune (limit : Nat)

namespace RunTable

/-- The run table of an engine as it opens. -/
def opened (taskQueue : String) (registered : Bool) : RunTable :=
  ⟨{ taskQueue, registered }, [], [], []⟩

/-- One step on the run table. An accepted submission starts its background run; a waiter that
finds the run running waits on or gives up, which leaves the table as it is. -/
def step (w : RunTable) : TableStep → RunTable
  | .submit o kind payload runId =>
    match w.engine.start o kind payload runId with
    | .ok (run, engine) =>
      { w with engine, inFlight := w.inFlight ++ [⟨o.id, runId, kind, payload, .running⟩],
               started := w.started ++ [run] }
    | .error _ => w
  | .finish n status =>
    match w.inFlight[n]? with
    | some run => { w with engine := w.engine.finish run status, inFlight := w.inFlight.eraseIdx n }
    | none => w
  | .poll x =>
    match w.engine.poll x with
    | (.taken run, engine) => { w with engine, taken := w.taken ++ [⟨x, run.runId⟩] }
    | (_, engine) => { w with engine }
  | .prune limit => { w with engine := w.engine.prune limit }

/-- The run table after a schedule of steps. -/
def serve (w : RunTable) (steps : List TableStep) : RunTable :=
  steps.foldl step w

/-- The answer of the last submission accepted for a workflow id. -/
def lastStarted (w : RunTable) (x : String) : Option WorkflowRun :=
  (w.started.filter (·.workflowId == x)).getLast?

theorem lastStarted_append_self {w w' : RunTable} (wr : WorkflowRun)
    (h : w'.started = w.started ++ [wr]) : w'.lastStarted wr.workflowId = some wr := by
  simp [lastStarted, h, List.filter_append]

theorem lastStarted_append_other {w w' : RunTable} {wr : WorkflowRun} {x : String}
    (h : w'.started = w.started ++ [wr]) (hx : wr.workflowId ≠ x) :
    w'.lastStarted x = w.lastStarted x := by
  simp [lastStarted, h, List.filter_append, hx]

theorem mem_inFlight_step {w : RunTable} {r : Run} (hr : r ∈ w.inFlight) (e : TableStep) :
    r ∈ (w.step e).inFlight ∨ ∃ n status, e = .finish n status ∧ w.inFlight[n]? = some r := by
  cases e with
  | submit o kind payload runId =>
    left
    simp only [step]
    split
    · exact List.mem_append_left _ hr
    · exact hr
  | finish n status =>
    obtain ⟨i, hi⟩ := List.mem_iff_getElem?.1 hr
    by_cases hin : i = n
    · subst hin
      exact .inr ⟨i, status, rfl, hi⟩
    · left
      simp only [step]
      split
      · exact List.mem_eraseIdx_iff_getElem?.2 ⟨i, hin, hi⟩
      · exact hr
  | poll x =>
    left
    simp only [step]
    split <;> exact hr
  | prune limit => exact .inl hr

theorem step_submit_of_refused {w : RunTable} {o : StartOptions} {kind : WorkflowKind}
    {payload : Json} {runId : String} {e : WorkflowError}
    (h : w.engine.start o kind payload runId = .error e) : w.step (.submit o kind payload runId) = w := by
  simp only [step, h]

/-- What every step keeps of the run table. -/
structure Kept (w : RunTable) : Prop where
  /-- One entry per workflow id. -/
  unique : w.engine.UniqueIds
  /-- A background run in flight finds its own entry, still running. -/
  inFlight : ∀ r ∈ w.inFlight, r ∈ w.engine.runs ∧ r.status = .running
  /-- The background runs in flight are for distinct workflow ids. -/
  distinct : (w.inFlight.map (·.workflowId)).Nodup
  /-- Each entry carries the run id of the last submission accepted for its workflow id. -/
  latest : ∀ r ∈ w.engine.runs, w.lastStarted r.workflowId = some r.workflowRun
  /-- The runs handed to waiters and those still held are accepted submissions, each once. -/
  handed : (w.taken ++ w.engine.runs.map Run.workflowRun).Subperm w.started

namespace Kept

variable {w : RunTable}

theorem opened (taskQueue : String) (registered : Bool) : (opened taskQueue registered).Kept where
  unique := List.nodup_nil
  inFlight := by simp [RunTable.opened]
  distinct := List.nodup_nil
  latest := by simp [RunTable.opened]
  handed := List.nil_subperm

theorem submit (hw : w.Kept) (o : StartOptions) (kind : WorkflowKind) (payload : Json)
    (runId : String) : (w.step (.submit o kind payload runId)).Kept := by
  cases h : w.engine.start o kind payload runId with
  | error e => rwa [step_submit_of_refused h]
  | ok res =>
    obtain ⟨wr, e⟩ := res
    obtain ⟨rfl, hfree, hruns⟩ := Pipeline.start_eq_ok h
    simp only [step, h]
    have hsub := w.engine.prune_sublist Pipeline.maxTrackedRuns
    have hother : ∀ r ∈ w.engine.runs, r.workflowId ≠ o.id := fun _ hr =>
      Pipeline.workflowId_ne_of_run?_eq_none hfree hr
    refine ⟨?_, ?_, ?_, ?_, ?_⟩
    · rw [Pipeline.UniqueIds, hruns]
      exact nodup_map_append_singleton (hw.unique.sublist (hsub.map _))
        fun r hr => hother r (hsub.subset hr)
    · simp only [hruns, List.mem_append, List.mem_singleton]
      rintro r (hr | rfl)
      · obtain ⟨hmem, hrun⟩ := hw.inFlight r hr
        exact ⟨.inl (Pipeline.mem_prune_of_running hmem hrun _), hrun⟩
      · exact ⟨.inr rfl, rfl⟩
    · exact nodup_map_append_singleton hw.distinct fun r hr => hother r (hw.inFlight r hr).1
    · simp only [hruns, List.mem_append, List.mem_singleton]
      rintro r (hr | rfl)
      · have hmem := hsub.subset hr
        rw [lastStarted_append_other rfl (Ne.symm (hother r hmem))]
        exact hw.latest r hmem
      · exact lastStarted_append_self (w := w) ⟨o.id, runId⟩ rfl
    · simp only [hruns, List.map_append, ← List.append_assoc]
      exact (List.subperm_append_right _).2
        (((hsub.map _).append_left _).subperm.trans hw.handed)

theorem finish (hw : w.Kept) (n : Nat) (status : RunStatus) : (w.step (.finish n status)).Kept := by
  cases h : w.inFlight[n]? with
  | none => simpa only [step, h] using hw
  | some run =>
    simp only [step, h]
    obtain ⟨hrun, -⟩ := hw.inFlight run (List.mem_of_getElem? h)
    have hperm := Pipeline.perm_forget hw.unique hrun
    have hkeys : ((w.engine.finish run status).runs.map (·.workflowId)) =
        ((w.engine.forget run.workflowId).runs ++ [run]).map (·.workflowId) := by simp
    have hrefs : ((w.engine.finish run status).runs.map Run.workflowRun) =
        ((w.engine.forget run.workflowId).runs ++ [run]).map Run.workflowRun := by
      simp [Run.workflowRun]
    refine ⟨?_, ?_, ?_, ?_, ?_⟩
    · simpa only [Pipeline.UniqueIds, hkeys] using (hperm.map _).nodup_iff.1 hw.unique
    · intro r hr
      obtain ⟨hmem, hrunning⟩ := hw.inFlight r (List.mem_of_mem_eraseIdx hr)
      exact ⟨by simp [hmem, key_ne_of_mem_eraseIdx hw.distinct h hr], hrunning⟩
    · exact hw.distinct.sublist ((List.eraseIdx_sublist _ _).map _)
    · simp only [Pipeline.finish_runs, List.mem_append, Pipeline.mem_forget, List.mem_singleton]
      rintro r (⟨hr, -⟩ | rfl)
      · exact hw.latest r hr
      · exact hw.latest run hrun
    · rw [hrefs]
      exact ((hperm.map _).append_left _).symm.subperm.trans hw.handed

theorem poll (hw : w.Kept) (x : String) : (w.step (.poll x)).Kept := by
  rcases w.engine.poll_eq x with h | h | ⟨run, hfound, hended, h⟩
  · simpa only [step, h] using hw
  · simpa only [step, h] using hw
  · simp only [step, h]
    obtain ⟨hrun, rfl⟩ := (Pipeline.run?_eq_some_iff hw.unique).1 hfound
    have hperm := Pipeline.perm_forget hw.unique hrun
    refine ⟨Pipeline.uniqueIds_forget hw.unique, ?_, hw.distinct, ?_, ?_⟩
    · intro r hr
      obtain ⟨hmem, hrunning⟩ := hw.inFlight r hr
      -- the run taken had ended, so it is no run in flight
      have hne : r.workflowId ≠ run.workflowId := by
        intro hkey
        rw [← List.inj_on_of_nodup_map hw.unique hmem hrun hkey, hrunning] at hended
        cases hended
      exact ⟨Pipeline.mem_forget.2 ⟨hmem, hne⟩, hrunning⟩
    · exact fun r hr => hw.latest r (Pipeline.mem_forget.1 hr).1
    · have hmove : (w.taken ++ [run.workflowRun] ++
          (w.engine.forget run.workflowId).runs.map Run.workflowRun).Perm
          (w.taken ++ w.engine.runs.map Run.workflowRun) := by
        rw [List.append_assoc]
        refine (List.perm_append_comm.append_left _).trans ?_
        simpa using ((hperm.map Run.workflowRun).append_left w.taken).symm
      exact hmove.subperm.trans hw.handed

theorem prune (hw : w.Kept) (limit : Nat) : (w.step (.prune limit)).Kept := by
  have hsub := w.engine.prune_sublist limit
  refine ⟨hw.unique.sublist (hsub.map _), fun r hr => ?_, hw.distinct,
    fun r hr => hw.latest r (hsub.subset hr), ((hsub.map _).append_left _).subperm.trans hw.handed⟩
  obtain ⟨hmem, hrunning⟩ := hw.inFlight r hr
  exact ⟨Pipeline.mem_prune_of_running hmem hrunning limit, hrunning⟩

theorem step (hw : w.Kept) : ∀ e, (w.step e).Kept
  | .submit o kind payload runId => hw.submit o kind payload runId
  | .finish n status => hw.finish n status
  | .poll x => hw.poll x
  | .prune limit => hw.prune limit

theorem serve (hw : w.Kept) (steps : List TableStep) : (w.serve steps).Kept := by
  induction steps generalizing w with
  | nil => exact hw
  | cons e steps ih => exact ih (hw.step e)

/-! ## What the invariant gives -/

theorem run?_of_inFlight (hw : w.Kept) {r : Run} (hr : r ∈ w.inFlight) :
    w.engine.run? r.workflowId = some r :=
  (Pipeline.run?_eq_some_iff hw.unique).2 ⟨(hw.inFlight r hr).1, rfl⟩

theorem entry_kept (hw : w.Kept) {r : Run} (hr : r ∈ w.inFlight) (e : TableStep) :
    (w.step e).engine.run? r.workflowId = some r ∨
      ∃ n status, e = .finish n status ∧ w.inFlight[n]? = some r := by
  rcases mem_inFlight_step hr e with hstays | hends
  · exact .inl ((hw.step e).run?_of_inFlight hstays)
  · exact .inr hends

theorem lastStarted_of_taken (hw : w.Kept) {x : String} {r : Run}
    (h : (w.engine.poll x).1 = .taken r) : w.lastStarted x = some ⟨x, r.runId⟩ := by
  obtain ⟨hfound, -, -⟩ := Pipeline.poll_eq_taken h
  obtain ⟨hmem, rfl⟩ := (Pipeline.run?_eq_some_iff hw.unique).1 hfound
  exact hw.latest r hmem

theorem taken_subperm (hw : w.Kept) : w.taken.Subperm w.started :=
  (List.sublist_append_left _ _).subperm.trans hw.handed

end Kept

end RunTable

/-- Safety of the run table over every schedule of submissions, background runs, waiters and
pruning, from the engine as it opens: a submission for a tracked id, another queue or another
retry policy is refused and changes nothing; a background run in flight has its own entry,
running, with the run id its submission was answered with, and every step but its own end keeps
it; a waiter that takes a run is handed the run id the last accepted submission for that id was
answered with, and the runs handed out are accepted submissions, each at most once; and pruning
keeps every running run. -/
theorem run_table_safe (taskQueue : String) (registered : Bool) (steps : List TableStep) :
    let w := (RunTable.opened taskQueue registered).serve steps
    (∀ o kind payload runId,
      (w.engine.run? o.id).isSome ∨ o.taskQueue ≠ w.engine.taskQueue ∨ o.maximumAttempts ≠ 1 →
        (∃ e, w.engine.start o kind payload runId = .error e) ∧
          w.step (.submit o kind payload runId) = w) ∧
    (∀ r ∈ w.inFlight, w.engine.run? r.workflowId = some r ∧ r.status = .running ∧
      w.lastStarted r.workflowId = some ⟨r.workflowId, r.runId⟩ ∧
      ∀ e, (w.step e).engine.run? r.workflowId = some r ∨
        ∃ n status, e = .finish n status ∧ w.inFlight[n]? = some r) ∧
    (∀ x r, (w.engine.poll x).1 = .taken r → w.lastStarted x = some ⟨x, r.runId⟩) ∧
    w.taken.Subperm w.started ∧
    (∀ limit, ∀ r ∈ w.engine.runs, r.status = .running → r ∈ (w.engine.prune limit).runs) := by
  intro w
  have hw : w.Kept := (RunTable.Kept.opened taskQueue registered).serve steps
  refine ⟨fun o kind payload runId hrefused => ?_, fun r hr => ?_,
    fun _ _ => hw.lastStarted_of_taken, hw.taken_subperm,
    fun limit _ hr hrunning => Pipeline.mem_prune_of_running hr hrunning limit⟩
  · obtain ⟨e, he⟩ := Pipeline.start_refused kind payload runId (.inr hrefused)
    exact ⟨⟨e, he⟩, RunTable.step_submit_of_refused he⟩
  · obtain ⟨hmem, hrunning⟩ := hw.inFlight r hr
    exact ⟨hw.run?_of_inFlight hr, hrunning, hw.latest r hmem, hw.entry_kept hr⟩

end ConnectorPlane
