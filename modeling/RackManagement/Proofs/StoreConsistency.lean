import RackManagement.Proofs.JobStoreOperations

/-!
# Consistency of the job store

The invariant of the four structures of the store is preserved by each operation.
-/

namespace RackManagement

open Library

namespace JobStore

/-- Records are stored under their own identifier, the node index holds exactly the live ones, and
the alias indexes are inverse. -/
structure Consistent (s : JobStore) : Prop where
  keyed : ∀ jobId job, s.get jobId = some job → job.jobId = jobId
  indexed : ∀ rackId nodeId jobId, s.activeByNode.Contains rackId nodeId jobId ↔
    ∃ job, s.get jobId = some job ∧ shouldIndex job = true ∧ job.rackId = rackId ∧ job.nodeId = nodeId
  pruned : s.activeByNode.Pruned
  coherent : s.aliases.Coherent

lemma consistent_empty : Consistent empty where
  keyed := by simp
  indexed := by
    intro rackId nodeId jobId
    have hnot : ¬empty.activeByNode.Contains rackId nodeId jobId := BucketIndex.not_contains_empty _ _ _
    simp [hnot]
  pruned := BucketIndex.pruned_empty
  coherent := OwnerTable.Coherent.empty

namespace Consistent

variable {s : JobStore} (h : s.Consistent)
include h

variable {jobId : JobId} {record : JobSnapshot}

lemma setRecord {old new : JobSnapshot} (hget : s.get jobId = some old)
    (hid : new.jobId = old.jobId) (hrack : new.rackId = old.rackId) (hnode : new.nodeId = old.nodeId)
    (hindex : shouldIndex new = shouldIndex old) : (s.setRecord jobId new).Consistent where
  keyed := by
    intro other job hjob
    rw [get_setRecord] at hjob
    split at hjob
    · rename_i ho
      cases hjob
      rw [hid, h.keyed jobId old hget, ho]
    · exact h.keyed other job hjob
  indexed := by
    intro rackId nodeId other
    rw [activeByNode_setRecord, h.indexed, get_setRecord]
    by_cases ho : other = jobId
    · simp [ho, hget, hrack, hnode, hindex]
    · rw [if_neg ho]
  pruned := h.pruned
  coherent := h.coherent

lemma reserveScopes {ownerId : JobId} {scopes : List JobScope}
    (hfree : ∀ scope ∈ scopes, ∀ other, s.activeByScope.lookup scope = some other → other = ownerId) :
    (s.reserveScopes ownerId scopes).Consistent where
  keyed := h.keyed
  indexed := h.indexed
  pruned := h.pruned
  coherent := h.coherent.reserve hfree

lemma releaseScopes (ownerId : JobId) : (s.releaseScopes ownerId).Consistent where
  keyed := h.keyed
  indexed := h.indexed
  pruned := h.pruned
  coherent := h.coherent.release ownerId

lemma insertVacant (hvacant : s.get record.jobId = none) : (s.insertVacant record).Consistent where
  keyed := by
    intro jobId job hjob
    rw [get_insertVacant] at hjob
    split at hjob
    · rename_i hid
      cases hjob
      exact hid.symm
    · exact h.keyed jobId job hjob
  indexed := by
    intro rackId nodeId jobId
    have hold := h.indexed rackId nodeId jobId
    rw [activeByNode_insertVacant, get_insertVacant]
    by_cases hindex : shouldIndex record = true
    · rw [if_pos hindex, BucketIndex.contains_add, hold]
      by_cases hid : jobId = record.jobId
      · rw [hid, if_pos rfl, hvacant]
        constructor
        · rintro (⟨job, hjob, _⟩ | ⟨hrack, hnode, _⟩)
          · cases hjob
          · exact ⟨record, rfl, hindex, hrack.symm, hnode.symm⟩
        · rintro ⟨job, hjob, _, hrack, hnode⟩
          cases hjob
          exact .inr ⟨hrack.symm, hnode.symm, rfl⟩
      · simp [hid]
    · rw [if_neg hindex, hold]
      by_cases hid : jobId = record.jobId
      · simp [hid, hvacant, hindex]
      · rw [if_neg hid]
  pruned := by
    rw [activeByNode_insertVacant]
    split
    · exact h.pruned.add _ _ _
    · exact h.pruned
  coherent := by
    rw [aliases_insertVacant]
    exact h.coherent

lemma remove (jobId : JobId) : (s.remove jobId).2.Consistent := by
  cases hget : s.get jobId with
  | none =>
    rw [remove_of_get_none hget]
    exact h
  | some record =>
    have hid := h.keyed jobId record hget
    have hnodes : (s.remove jobId).2.activeByNode =
        s.activeByNode.remove record.rackId record.nodeId record.jobId := by
      rw [remove_of_get hget]
      rfl
    constructor
    · intro other job hjob
      rw [get_remove] at hjob
      split at hjob
      · cases hjob
      · exact h.keyed other job hjob
    · intro rackId nodeId other
      rw [hnodes, BucketIndex.contains_remove, h.indexed, get_remove, hid]
      by_cases ho : other = jobId
      · subst ho
        constructor
        · rintro ⟨⟨job, hjob, _, hrack, hnode⟩, hne⟩
          cases hget.symm.trans hjob
          exact absurd ⟨hrack.symm, hnode.symm, rfl⟩ hne
        · rintro ⟨job, hjob, _⟩
          rw [if_pos rfl] at hjob
          cases hjob
      · simp [ho]
    · rw [hnodes]
      exact h.pruned.remove _ _ _
    · rw [aliases_remove_of_get hget]
      exact h.coherent.release jobId

lemma removeAll (jobIds : List JobId) : (s.removeAll jobIds).Consistent := by
  induction jobIds generalizing s with
  | nil => exact h
  | cons jobId jobIds ih =>
    rw [removeAll_cons]
    exact ih (h.remove jobId)

lemma warnFutureTimestamps (now : Instant) : (s.warnFutureTimestamps now).Consistent where
  keyed := by
    intro jobId job hjob
    rw [get_warnFutureTimestamps, Option.map_eq_some_iff] at hjob
    obtain ⟨old, hget, rfl⟩ := hjob
    rw [warnTerminal_jobId]
    exact h.keyed jobId old hget
  indexed := by
    intro rackId nodeId jobId
    have hnodes : (s.warnFutureTimestamps now).activeByNode = s.activeByNode := rfl
    rw [hnodes, h.indexed, get_warnFutureTimestamps]
    cases s.get jobId <;> simp
  pruned := h.pruned
  coherent := h.coherent

lemma cleanupExpired (now : Instant) (ttl : Duration) : (s.cleanupExpired now ttl).Consistent := by
  rw [cleanupExpired_eq]
  exact (h.warnFutureTimestamps now).removeAll _

lemma indexed_moveTo {next : JobLifecycleState} {now : Instant}
    (hget : s.get jobId = some record) (hlive : record.state.isTerminal = false) (rackId nodeId : String) :
    (s.moveTo jobId record next now).activeByNode.Contains rackId nodeId jobId ↔
      shouldIndex (withState record next now) = true ∧ record.rackId = rackId ∧ record.nodeId = nodeId := by
  have hid := h.keyed jobId record hget
  have hold : s.activeByNode.Contains rackId nodeId jobId ↔
      shouldIndex record = true ∧ record.rackId = rackId ∧ record.nodeId = nodeId := by
    simp [h.indexed, hget]
  rw [activeByNode_moveTo]
  by_cases hterm : next.isTerminal = true
  · have hnone : shouldIndex (withState record next now) = false := by
      simp [shouldIndex, withState, JobSnapshot.touch, hterm]
    cases hindex : shouldIndex record with
    | true =>
      simp only [hterm, Bool.and_self, if_true, BucketIndex.contains_remove, hid, hold, hindex, hnone]
      tauto
    | false => simp [hold, hindex, hnone]
  · have hsame : shouldIndex (withState record next now) = shouldIndex record := by
      simp [shouldIndex, withState, JobSnapshot.touch, hlive, hterm]
    simp [hterm, hold, hsame]

lemma moveTo {next : JobLifecycleState}
    (hget : s.get jobId = some record) (hlive : record.state.isTerminal = false) (now : Instant) :
    (s.moveTo jobId record next now).Consistent := by
  have hid := h.keyed jobId record hget
  constructor
  · intro other job hjob
    rw [get_moveTo] at hjob
    split at hjob
    · rename_i ho
      cases hjob
      rw [ho]
      exact hid
    · exact h.keyed other job hjob
  · intro rackId nodeId other
    by_cases ho : other = jobId
    · rw [ho, h.indexed_moveTo hget hlive, get_moveTo, if_pos rfl]
      have hfields : (withState record next now).rackId = record.rackId ∧
          (withState record next now).nodeId = record.nodeId := ⟨rfl, rfl⟩
      simp [hfields]
    · have hother : ∀ rackId' nodeId', (s.activeByNode.remove rackId' nodeId' record.jobId).Contains
          rackId nodeId other ↔ s.activeByNode.Contains rackId nodeId other := by
        intro rackId' nodeId'
        simp [BucketIndex.contains_remove, hid, ho]
      rw [activeByNode_moveTo, get_moveTo, if_neg ho, ← h.indexed]
      split
      · exact hother _ _
      · exact Iff.rfl
  · rw [activeByNode_moveTo]
    split
    · exact h.pruned.remove _ _ _
    · exact h.pruned
  · rw [aliases_moveTo]
    split
    · exact h.coherent.release jobId
    · exact h.coherent

end Consistent

end JobStore

end RackManagement
