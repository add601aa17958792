import RackManagement.Library.Counting
import RackManagement.Proofs.TrackerSteps

/-!
# Agreement of a sealed parent with its children

What a refresh has read of a terminal child stays true. A child attached after the list was read is
not seen.
-/

namespace RackManagement

open Library List JobStore

namespace JobLifecycleState

variable {state : JobLifecycleState}

lemma isTerminal_of_isCompleted (h : state.isCompleted = true) : state.isTerminal = true := by
  cases state <;> first | rfl | cases h

lemma isTerminal_of_isFailed (h : state.isFailed = true) : state.isTerminal = true := by
  cases state <;> first | rfl | cases h

lemma isFailed_of_isCompleted (h : state.isCompleted = true) : state.isFailed = false := by
  cases state <;> first | rfl | cases h

end JobLifecycleState

namespace JobStore

def completedIn (s : JobStore) (jobId : JobId) : Bool :=
  (s.get jobId).any (fun job => job.state.isCompleted)

def failedIn (s : JobStore) (jobId : JobId) : Bool := (s.get jobId).any (fun job => job.state.isFailed)

variable {s t : JobStore} {jobId : JobId}

lemma completedIn_iff :
    s.completedIn jobId = true ↔ ∃ job, s.get jobId = some job ∧ job.state.isCompleted = true := by
  simp [completedIn, Option.any_eq_true]

lemma failedIn_iff :
    s.failedIn jobId = true ↔ ∃ job, s.get jobId = some job ∧ job.state.isFailed = true := by
  simp [failedIn, Option.any_eq_true]

lemma failedIn_of_completedIn (h : s.completedIn jobId = true) : s.failedIn jobId = false := by
  obtain ⟨job, hget, hcompleted⟩ := completedIn_iff.mp h
  simp [failedIn, hget, JobLifecycleState.isFailed_of_isCompleted hcompleted]

/-- The jobs of a list that are recorded as ended in `s` are recorded the same in `t`. -/
def Keeps (s t : JobStore) (jobIds : List JobId) : Prop :=
  ∀ jobId ∈ jobIds, (s.completedIn jobId = true → t.completedIn jobId = true) ∧
    (s.failedIn jobId = true → t.failedIn jobId = true)

lemma keeps_of_terminal {jobIds : List JobId}
    (h : ∀ jobId ∈ jobIds, ∀ job, s.get jobId = some job → job.state.isTerminal = true →
      ∃ job', t.get jobId = some job' ∧ job'.state = job.state) : s.Keeps t jobIds := by
  intro jobId hmem
  constructor
  · intro hc
    obtain ⟨job, hget, hdone⟩ := completedIn_iff.mp hc
    obtain ⟨job', hget', hstate⟩ :=
      h jobId hmem job hget (JobLifecycleState.isTerminal_of_isCompleted hdone)
    exact completedIn_iff.mpr ⟨job', hget', hstate ▸ hdone⟩
  · intro hf
    obtain ⟨job, hget, hdone⟩ := failedIn_iff.mp hf
    obtain ⟨job', hget', hstate⟩ := h jobId hmem job hget (JobLifecycleState.isTerminal_of_isFailed hdone)
    exact failedIn_iff.mpr ⟨job', hget', hstate ▸ hdone⟩

lemma keeps_moveTo {record : JobSnapshot} {next : JobLifecycleState} {now : Instant}
    (hget : s.get jobId = some record) (hlive : record.state.isTerminal = false) (jobIds : List JobId) :
    s.Keeps (s.moveTo jobId record next now) jobIds := by
  apply keeps_of_terminal
  intro other _ job hjob hended
  have hne : other ≠ jobId := by
    rintro rfl
    cases hget.symm.trans hjob
    rw [hlive] at hended
    cases hended
  refine ⟨job, ?_, rfl⟩
  rw [get_moveTo, if_neg hne]
  exact hjob

end JobStore

namespace RefreshCall

def parentId : RefreshCall → JobId
  | counting parentId _ _ _ _ => parentId
  | skipping parentId _ _ _ _ _ => parentId
  | sealing parentId _ _ => parentId
  | reporting parentId _ => parentId

def childIds : RefreshCall → List JobId
  | counting _ _ childIds _ _ => childIds
  | skipping _ _ childIds _ _ _ => childIds
  | sealing _ childIds _ => childIds
  | reporting _ _ => []

def Established (jobs : JobStore) : RefreshCall → Prop
  | counting _ _ childIds unread counts =>
    ∃ read, childIds = read ++ unread ∧ counts.total = childIds.length ∧ counts.missing = 0 ∧
      counts.completed ≤ read.countP jobs.completedIn ∧ counts.failed ≤ read.countP jobs.failedIn
  | skipping _ _ childIds _ _ _ => ∀ childId ∈ childIds, jobs.completedIn childId = true
  | sealing _ childIds mark =>
    (mark.target.isCompleted = true ∧ ∀ childId ∈ childIds, jobs.completedIn childId = true) ∨
    (mark.target.isCompleted = false ∧ (∃ childId ∈ childIds, jobs.failedIn childId = true) ∧
      ∀ childId ∈ childIds, jobs.completedIn childId = true ∨ jobs.failedIn childId = true)
  | reporting _ _ => True

variable {codec : ResultCodec} {jobs jobs' : JobStore}

variable {call next : RefreshCall} {parentId : JobId} {counts : ParentCounts}

lemma Established.mono (h : call.Established jobs) (hkeeps : jobs.Keeps jobs' call.childIds) :
    call.Established jobs' := by
  cases call with
  | counting parentId jobType childIds unread counts =>
    obtain ⟨read, hsplit, htotal, hmissing, hcompleted, hfailed⟩ := h
    have hread : ∀ c ∈ read, c ∈ childIds := by
      intro c hc
      rw [hsplit]
      exact mem_append_left unread hc
    refine ⟨read, hsplit, htotal, hmissing, le_trans hcompleted ?_, le_trans hfailed ?_⟩
    · exact countP_mono_left (fun c hc => (hkeeps c (hread c hc)).1)
    · exact countP_mono_left (fun c hc => (hkeeps c (hread c hc)).2)
  | skipping parentId jobType childIds unread total skipped =>
    intro c hc
    exact (hkeeps c hc).1 (h c hc)
  | sealing parentId childIds mark =>
    rcases h with ⟨hmark, hall⟩ | ⟨hmark, ⟨c, hc, hfailed⟩, hall⟩
    · exact .inl ⟨hmark, fun c hc => (hkeeps c hc).1 (hall c hc)⟩
    · refine .inr ⟨hmark, ⟨c, hc, (hkeeps c hc).2 hfailed⟩, fun c hc => ?_⟩
      exact (hall c hc).imp (hkeeps c hc).1 (hkeeps c hc).2
  | reporting parentId description => trivial

lemma start_eq_some (h : RefreshCall.start parentId (jobs.get parentId) = some call) :
    call.parentId = parentId ∧ call.Established jobs ∧
      ∃ parent, jobs.get parentId = some parent ∧ call.childIds = parent.childJobIds := by
  cases hget : jobs.get parentId with
  | none =>
    rw [hget] at h
    cases h
  | some parent =>
    rw [hget] at h
    simp only [start] at h
    split at h
    · cases h
    · obtain ⟨jobType, _, rfl⟩ := Option.map_eq_some_iff.mp h
      exact ⟨rfl, ⟨[], rfl, rfl, rfl, Nat.zero_le _, Nat.zero_le _⟩, parent, rfl, rfl⟩

lemma established_readChild {read : List JobId} {childId : JobId} {child : JobSnapshot}
    (hget : jobs.get childId = some child) (hmissing : counts.missing = 0)
    (hcompleted : counts.completed ≤ read.countP jobs.completedIn)
    (hfailed : counts.failed ≤ read.countP jobs.failedIn) :
    let counts' := counts.readChild (some child)
    counts'.total = counts.total ∧ counts'.missing = 0 ∧
      counts'.completed ≤ (read ++ [childId]).countP jobs.completedIn ∧
      counts'.failed ≤ (read ++ [childId]).countP jobs.failedIn := by
  simp only [countP_append, countP_singleton, completedIn, failedIn, hget,
    Option.any_some, ParentCounts.readChild, ParentCounts.countChild]
  cases child.state with
  | queued description =>
    exact ⟨rfl, hmissing, Nat.le_add_right_of_le hcompleted, Nat.le_add_right_of_le hfailed⟩
  | running description =>
    exact ⟨rfl, hmissing, Nat.le_add_right_of_le hcompleted, Nat.le_add_right_of_le hfailed⟩
  | completed description resultJson =>
    exact ⟨rfl, hmissing, Nat.add_le_add_right hcompleted 1, Nat.le_add_right_of_le hfailed⟩
  | failed description failure message resultJson =>
    exact ⟨rfl, hmissing, Nat.le_add_right_of_le hcompleted, Nat.add_le_add_right hfailed 1⟩

lemma afterCounting_frame {jobType : JobType} {childIds : List JobId}
    (h : afterCounting codec parentId jobType childIds counts = some next) :
    next.parentId = parentId ∧ next.childIds <+: childIds := by
  unfold afterCounting at h
  split at h
  · cases h
  · split at h
    · split at h <;> cases h <;> exact ⟨rfl, prefix_rfl⟩
    · cases h
      exact ⟨rfl, nil_prefix⟩

lemma advance_frame {get : JobId → Option JobSnapshot} (h : call.advance codec get = some next) :
    next.parentId = call.parentId ∧ next.childIds <+: call.childIds := by
  cases call with
  | counting parentId jobType childIds unread counts =>
    cases unread with
    | nil => exact afterCounting_frame h
    | cons childId unread =>
      cases h
      exact ⟨rfl, prefix_rfl⟩
  | skipping parentId jobType childIds unread total skipped =>
    cases unread <;> cases h <;> exact ⟨rfl, prefix_rfl⟩
  | sealing parentId childIds mark =>
    cases h
    exact ⟨rfl, prefix_rfl⟩
  | reporting parentId description =>
    cases h
    exact ⟨rfl, prefix_rfl⟩

lemma established_afterCounting {jobType : JobType} {childIds : List JobId}
    (htotal : counts.total = childIds.length)
    (hmissing : counts.missing = 0) (hcompleted : counts.completed ≤ childIds.countP jobs.completedIn)
    (hfailed : counts.failed ≤ childIds.countP jobs.failedIn)
    (h : afterCounting codec parentId jobType childIds counts = some next) : next.Established jobs := by
  unfold afterCounting at h
  have hexclusive : ∀ c, jobs.completedIn c = true → jobs.failedIn c = false :=
    fun c => failedIn_of_completedIn
  have hlength : childIds.countP jobs.completedIn ≤ childIds.length := countP_le_length
  split at h
  · cases h
  · split at h
    · rename_i hdone
      have hdone' : counts.completed + counts.failed + counts.missing = counts.total := hdone
      split at h
      · rename_i hsome
        cases h
        have hpositive : 0 < counts.failed := by
          simp only [gt_iff_lt, Bool.or_eq_true, decide_eq_true_eq] at hsome
          omega
        have hexists : 0 < childIds.countP jobs.failedIn := by omega
        refine .inr ⟨rfl, countP_pos_iff.mp hexists, ?_⟩
        apply forall_or_of_length_le hexclusive
        omega
      · rename_i hnone
        cases h
        have hzero : counts.failed = 0 := by
          simp only [gt_iff_lt, Bool.or_eq_true, decide_eq_true_eq, not_or] at hnone
          omega
        apply countP_eq_length.mp
        omega
    · cases h
      trivial

lemma established_advance (h : call.Established jobs)
    (hretained : ∀ childId ∈ call.childIds, ∃ child, jobs.get childId = some child)
    (hnext : call.advance codec jobs.get = some next) : next.Established jobs := by
  cases call with
  | counting parentId jobType childIds unread counts =>
    obtain ⟨read, hsplit, htotal, hmissing, hcompleted, hfailed⟩ := h
    cases unread with
    | nil =>
      rw [append_nil] at hsplit
      subst hsplit
      exact established_afterCounting htotal hmissing hcompleted hfailed hnext
    | cons childId unread =>
      cases hnext
      have hmem : childId ∈ childIds := by
        rw [hsplit]
        exact mem_append_right read mem_cons_self
      obtain ⟨child, hget⟩ := hretained childId hmem
      obtain ⟨htotal', hmissing', hcompleted', hfailed'⟩ :=
        established_readChild hget hmissing hcompleted hfailed
      rw [hget]
      refine ⟨read ++ [childId], ?_, htotal'.trans htotal, hmissing', hcompleted', hfailed'⟩
      rw [hsplit, append_assoc, singleton_append]
  | skipping parentId jobType childIds unread total skipped =>
    cases unread with
    | nil =>
      cases hnext
      exact .inl ⟨rfl, h⟩
    | cons childId unread =>
      cases hnext
      exact h
  | sealing parentId childIds mark =>
    cases hnext
    exact h
  | reporting parentId description =>
    cases hnext
    exact h

end RefreshCall

namespace TrackerState

variable {text : FailureText} {codec : ResultCodec} {s t : TrackerState} {op : TrackerOp}
  {past : List TrackerOp} {call : RefreshCall}

/-- What a refresh in progress knows, as long as its parent is live. -/
structure CallSound (past : List TrackerOp) (s : TrackerState) (call : RefreshCall) : Prop where
  drawn : call.parentId ∈ past.flatMap TrackerOp.drawnIds
  live : ∀ parent, s.jobs.get call.parentId = some parent → parent.state.isTerminal = false →
    call.childIds <+: parent.childJobIds ∧ call.Established s.jobs

variable {parent parent' : JobSnapshot}

lemma Sound.keeps_children (hs : Sound past s) (hfresh : FreshIds (past ++ [op]))
    (h : s.step text codec op = some t) {parentId : JobId}
    (hparent' : t.jobs.get parentId = some parent') (hlive' : parent'.state.isTerminal = false)
    (hbegins : parent.childJobIds <+: parent'.childJobIds) : s.jobs.Keeps t.jobs parent.childJobIds := by
  have ht := hs.step h
  apply keeps_of_terminal
  intro childId hmem child hchild hended
  obtain ⟨child', hchild', _⟩ :=
    ht.links.parent parentId parent' hparent' hlive' childId (hbegins.subset hmem)
  have hnot : childId ∉ op.drawnIds := hfresh.not_drawn (hs.drawn childId child hchild)
  obtain ⟨old, hold, hevolves⟩ := hs.evolves h hnot hchild'
  cases hchild.symm.trans hold
  exact ⟨child', hchild', (hevolves.final hended).1⟩

lemma mem_drawn_snoc {jobId : JobId} (op : TrackerOp) (h : jobId ∈ past.flatMap TrackerOp.drawnIds) :
    jobId ∈ (past ++ [op]).flatMap TrackerOp.drawnIds := by
  rw [flatMap_append]
  exact mem_append_left _ h

lemma CallSound.step (hcall : CallSound past s call) (hs : Sound past s) (hfresh : FreshIds (past ++ [op]))
    (h : s.step text codec op = some t) : CallSound (past ++ [op]) t call := by
  refine ⟨mem_drawn_snoc op hcall.drawn, ?_⟩
  intro parent' hparent' hlive'
  have hnot : call.parentId ∉ op.drawnIds := hfresh.not_drawn hcall.drawn
  obtain ⟨parent, hparent, hevolves⟩ := hs.evolves h hnot hparent'
  have hlive := hevolves.live_of_live hlive'
  obtain ⟨hbegins, hestablished⟩ := hcall.live parent hparent hlive
  have hkeeps := hs.keeps_children hfresh h hparent' hlive' hevolves.children
  refine ⟨hbegins.trans hevolves.children, hestablished.mono ?_⟩
  intro childId hmem
  exact hkeeps childId (hbegins.subset hmem)

lemma step_callSound (hs : Sound past s) (hfresh : FreshIds (past ++ [op]))
    (hcalls : ∀ caller call, s.refreshes.lookup caller = some call → CallSound past s call)
    (h : s.step text codec op = some t) (caller : Nat) (call : RefreshCall)
    (hcall : t.refreshes.lookup caller = some call) : CallSound (past ++ [op]) t call := by
  rcases step_refreshes h hcall with hold | ⟨hcore, parentId, hstart⟩ | ⟨hcore, old, hold, hadvance⟩
  · exact (hcalls caller call hold).step hs hfresh h
  · obtain ⟨hid, hestablished, parent, hparent, hchildren⟩ := RefreshCall.start_eq_some hstart
    refine ⟨mem_drawn_snoc op (hid ▸ hs.drawn parentId parent hparent), ?_⟩
    intro parent' hparent' _
    rw [jobs, hcore, hid] at hparent'
    cases hparent.symm.trans hparent'
    rw [jobs, hcore]
    exact ⟨hchildren ▸ prefix_rfl, hestablished⟩
  · have hsound := hcalls caller old hold
    obtain ⟨hid, hsub⟩ := RefreshCall.advance_frame hadvance
    refine ⟨mem_drawn_snoc op (hid ▸ hsound.drawn), ?_⟩
    intro parent hparent hlive
    rw [jobs, hcore, hid] at hparent
    obtain ⟨hbegins, hestablished⟩ := hsound.live parent hparent hlive
    have hretained : ∀ childId ∈ old.childIds, ∃ child, s.jobs.get childId = some child := by
      intro childId hmem
      obtain ⟨child, hchild, _⟩ :=
        hs.links.parent old.parentId parent hparent hlive childId (hbegins.subset hmem)
      exact ⟨child, hchild⟩
    rw [jobs, hcore]
    exact ⟨hsub.trans hbegins, RefreshCall.established_advance hestablished hretained hadvance⟩

lemma stepRefresh_seals {caller : Nat} {now : Instant} (hs : Sound past s)
    (h : s.step text codec (.stepRefresh caller now) = some t) {parentId : JobId}
    (hparent : s.jobs.get parentId = some parent) (hlive : parent.state.isTerminal = false)
    (hparent' : t.jobs.get parentId = some parent') (hterm : parent'.state.isTerminal = true) :
    ∃ childIds mark, s.refreshes.lookup caller = some (.sealing parentId childIds mark) ∧
      t.jobs = s.jobs.moveTo parentId parent mark.target now := by
  have hchanged : t.core ≠ s.core := by
    intro hcore
    rw [jobs, hcore] at hparent'
    cases hparent.symm.trans hparent'
    rw [hlive] at hterm
    cases hterm
  have hmark : ∀ markedId mark, s.core.step (rmsJobDomain text) (.mark markedId mark now) = some t.core →
      markedId = parentId ∧ mark.target.isTerminal = true ∧
        t.jobs = s.jobs.moveTo parentId parent mark.target now := by
    intro markedId mark hstep
    have heffect : RegistryState.Effect s.core _ t.core := RegistryState.step_effect hs.consistent hstep
    obtain ⟨_, _, hop, hended, hcore⟩ := heffect.sealed hparent hlive hparent' hterm
    cases hop
    refine ⟨rfl, hended, ?_⟩
    rw [jobs, hcore]
    rfl
  cases step_progress h with
  | silent idle core => exact absurd core hchanged
  | observed index call found idle core => exact absurd core hchanged
  | performed rop performs step =>
    simp only [registryOp] at performs
    split at performs
    · rename_i sealedId childIds mark hlookup
      split at performs <;> cases performs
      obtain ⟨rfl, _, hjobs⟩ := hmark sealedId mark step
      exact ⟨childIds, mark, hlookup, hjobs⟩
    · rename_i reportedId description hlookup
      cases performs
      obtain ⟨_, hended, _⟩ := hmark reportedId _ step
      cases hended
    · cases performs

/-- A sealing step finds the parent with the children that its refresh listed. -/
def SealsWholeList (s : TrackerState) (op : TrackerOp) (_ : TrackerState) : Prop :=
  ∀ caller now parentId childIds mark parent, op = .stepRefresh caller now →
    s.refreshes.lookup caller = some (.sealing parentId childIds mark) →
    s.jobs.get parentId = some parent → parent.childJobIds = childIds

/-- A parent sealed by the step has ended children only, and is completed exactly if all of them are. -/
def SealAgrees (s : TrackerState) (op : TrackerOp) (t : TrackerState) : Prop :=
  ∀ caller now parentId parent parent', op = .stepRefresh caller now →
    s.jobs.get parentId = some parent → parent.state.isTerminal = false →
    t.jobs.get parentId = some parent' → parent'.state.isTerminal = true →
    (∀ childId ∈ parent'.childJobIds, ∃ child, t.jobs.get childId = some child ∧
      child.state.isTerminal = true) ∧
    (parent'.state.isCompleted = true ↔
      ∀ childId ∈ parent'.childJobIds, ∃ child, t.jobs.get childId = some child ∧
        child.state.isCompleted = true)

lemma sealAgrees_of_callSound (hs : Sound past s)
    (hcalls : ∀ caller call, s.refreshes.lookup caller = some call → CallSound past s call)
    (hwhole : SealsWholeList s op t) (h : s.step text codec op = some t) : SealAgrees s op t := by
  rintro caller now parentId parent parent' rfl hparent hlive hparent' hterm
  obtain ⟨childIds, mark, hlookup, hjobs⟩ := stepRefresh_seals hs h hparent hlive hparent' hterm
  have hlist : parent.childJobIds = childIds :=
    hwhole caller now parentId childIds mark parent rfl hlookup hparent
  obtain ⟨_, hestablished⟩ := (hcalls caller _ hlookup).live parent hparent hlive
  have hsealed : parent' = withState parent mark.target now := by
    rw [hjobs, get_moveTo, if_pos rfl] at hparent'
    exact (Option.some.inj hparent').symm
  have hchildren : parent'.childJobIds = childIds := by
    rw [hsealed, ← hlist]
    rfl
  have hstate : parent'.state = mark.target := by
    rw [hsealed]
    rfl
  have hkeeps : s.jobs.Keeps t.jobs childIds := by
    rw [hjobs]
    exact keeps_moveTo hparent hlive childIds
  have hcompleted : ∀ childId ∈ childIds, s.jobs.completedIn childId = true →
      ∃ child, t.jobs.get childId = some child ∧ child.state.isCompleted = true :=
    fun childId hmem hc => completedIn_iff.mp ((hkeeps childId hmem).1 hc)
  have hfailed : ∀ childId ∈ childIds, s.jobs.failedIn childId = true →
      ∃ child, t.jobs.get childId = some child ∧ child.state.isFailed = true :=
    fun childId hmem hf => failedIn_iff.mp ((hkeeps childId hmem).2 hf)
  rw [hchildren, hstate]
  rcases hestablished with ⟨hmark, hall⟩ | ⟨hmark, ⟨failedId, hmem, hf⟩, hall⟩
  · refine ⟨fun childId hc => ?_, fun _ childId hc =>
      hcompleted childId hc (hall childId hc), fun _ => hmark⟩
    obtain ⟨child, hchild, hdone⟩ := hcompleted childId hc (hall childId hc)
    exact ⟨child, hchild, JobLifecycleState.isTerminal_of_isCompleted hdone⟩
  · constructor
    · intro childId hc
      rcases hall childId hc with hdone | hdone
      · obtain ⟨child, hchild, hdone⟩ := hcompleted childId hc hdone
        exact ⟨child, hchild, JobLifecycleState.isTerminal_of_isCompleted hdone⟩
      · obtain ⟨child, hchild, hdone⟩ := hfailed childId hc hdone
        exact ⟨child, hchild, JobLifecycleState.isTerminal_of_isFailed hdone⟩
    · rw [hmark]
      refine ⟨fun hc => (by cases hc), fun hc => ?_⟩
      obtain ⟨child, hchild, hdone⟩ := hc failedId hmem
      obtain ⟨child', hchild', hbad⟩ := hfailed failedId hmem hf
      cases hchild.symm.trans hchild'
      rw [JobLifecycleState.isFailed_of_isCompleted hdone] at hbad
      cases hbad

/-- If sealing steps find the parent with the children that their refresh listed, every parent
sealed by a refresh agrees with all its children. -/
theorem refresh_seals_in_agreement {ttl : Duration} {maxJobs : Nat} {ops : List TrackerOp}
    (hfresh : FreshIds ops)
    (hwhole : Along (step text codec) SealsWholeList (initial ttl maxJobs) ops) :
    Along (step text codec) SealAgrees (initial ttl maxJobs) ops := by
  let I : List TrackerOp → TrackerState → Prop := fun past s =>
    Sound past s ∧ ∀ caller call, s.refreshes.lookup caller = some call → CallSound past s call
  have hinit : I [] (initial ttl maxJobs) := by
    refine ⟨sound_initial ttl maxJobs, ?_⟩
    intro caller call hcall
    cases hcall
  have hstep : ∀ past s op t, FreshIds (past ++ [op]) → I past s → step text codec s op = some t →
      I (past ++ [op]) t := by
    intro past s op t hf hs hst
    exact ⟨hs.1.step hst, step_callSound hs.1 hf hs.2 hst⟩
  have hagrees : ∀ past s op t, FreshIds (past ++ [op]) → I past s → SealsWholeList s op t →
      step text codec s op = some t → SealAgrees s op t := by
    intro past s op t _ hs hw hst
    exact sealAgrees_of_callSound hs.1 hs.2 hw hst
  exact along_of_history_invariant (fun _ _ => FreshIds.of_append) hstep hagrees hinit hfresh hwhole

/-- A parent with one completed child, up to where a refresh is about to seal it. -/
def aboutToSeal : List TrackerOp :=
  [.create (.parentJob "rack" .firmwareUpdate) ⟨[⟨"parent"⟩], 0, 0, 0⟩,
    .storeParentHandle ⟨"parent"⟩,
    .create (.childJob ⟨"parent"⟩ "rack" "a") ⟨[⟨"a"⟩], 0, 1, 1⟩,
    .handle ⟨"a"⟩ none (.complete "done" "") 2,
    .startRefresh 0 ⟨"parent"⟩, .stepRefresh 0 3, .stepRefresh 0 3, .stepRefresh 0 3, .stepRefresh 0 3]

theorem refresh_seals_one_child :
    ∃ s t parent, run (step plainText plainCodec) (initial 60 10) aboutToSeal = some s ∧
    step plainText plainCodec s (.stepRefresh 0 4) = some t ∧ t.jobs.get ⟨"parent"⟩ = some parent ∧
    parent.state.isCompleted = true ∧ SealAgrees s (.stepRefresh 0 4) t := by
  have hfresh : FreshIds (aboutToSeal ++ [.stepRefresh 0 4]) := by
    unfold FreshIds
    decide
  have hwhole : Along (step plainText plainCodec) SealsWholeList (initial 60 10)
      (aboutToSeal ++ [.stepRefresh 0 4]) := by
    have hother : ∀ s op t, (∀ caller now, op ≠ .stepRefresh caller now) → SealsWholeList s op t :=
      fun s op t hne caller now _ _ _ _ hop => absurd hop (hne caller now)
    iterate 5
      refine fun s hs => ⟨hother _ _ _ (by simp), ?_⟩
      cases hs
    iterate 4
      refine fun s hs => ⟨fun _ _ _ _ _ _ hop hlookup => (by cases hop; cases hlookup), ?_⟩
      cases hs
    refine fun s hs => ⟨fun _ _ _ _ _ _ hop hlookup hget => ?_, trivial⟩
    cases hop
    cases hlookup
    cases hget
    rfl
  have hrun : run (step plainText plainCodec) (initial 60 10) aboutToSeal = some _ := rfl
  refine ⟨_, _, _, hrun, rfl, rfl, rfl, ?_⟩
  exact (refresh_seals_in_agreement hfresh hwhole).last hrun rfl

/-- A second child attached between the last read of a refresh and its seal. -/
def lateChild : List TrackerOp :=
  aboutToSeal ++ [.create (.childJob ⟨"parent"⟩ "rack" "b") ⟨[⟨"b"⟩], 0, 5, 5⟩]

theorem refresh_seals_over_late_child : FreshIds lateChild ∧ ∃ s t parent child,
    run (step plainText plainCodec) (initial 60 10) lateChild = some s ∧
    step plainText plainCodec s (.stepRefresh 0 6) = some t ∧
    t.jobs.get ⟨"parent"⟩ = some parent ∧ parent.state.isCompleted = true ∧ ⟨"b"⟩ ∈ parent.childJobIds ∧
    t.jobs.get ⟨"b"⟩ = some child ∧ child.state.isTerminal = false ∧
      ¬SealAgrees s (.stepRefresh 0 6) t := by
  have hfresh : FreshIds lateChild := by
    unfold FreshIds
    decide
  have hrun : run (step plainText plainCodec) (initial 60 10) lateChild = some _ := rfl
  refine ⟨hfresh, _, _, _, _, hrun, rfl, rfl, rfl, by decide, rfl, rfl, ?_⟩
  intro hagrees
  obtain ⟨child, hchild, hterm⟩ := (hagrees 0 6 ⟨"parent"⟩ _ _ rfl rfl rfl rfl rfl).1 ⟨"b"⟩ (by decide)
  cases hchild
  cases hterm

end TrackerState

end RackManagement
