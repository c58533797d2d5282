import JobShell.Proofs.Kernel.Children

/-!
# What happens to the kernel by itself

A `Kernel.Move` is something that happens while the shell does nothing to the kernel: a child
ends, a child signal arrives or is delivered at last, a child is stopped or arranges for
signals, the terminal's stop signal comes, a signal is sent. `Kernel.Drift` is any number of
moves with the ends that come with them. Programs that run and processes that send signals do
nothing else (`endChild_drifts`, `signalChild_drifts`).

No move touches what the shell has arranged for signals, the kernel stays sound, and but for
an end a move is not seen by the shell.
-/

namespace JobShell

namespace Kernel

/-- One thing that can happen to the kernel, and the end that comes with it. -/
inductive Move : Kernel → List Fact → Kernel → Prop where
  /-- A running child ends, with any exit code or by any signal. -/
  | ends (k : Kernel) (pid : Pid) (status : StatusWord) (t : Termination)
      (hrunning : k.isRunning pid = true) (hend : Termination.ofStatus? status = some t) :
      Move k [⟨pid, status⟩] (k.terminate pid status)
  /-- The child signal that waits is delivered. -/
  | deliver (k : Kernel) (hblocked : k.signals.childBlocked = false)
      (hpending : k.childPending = true) : Move k [] k.deliverPending
  /-- A child signal arrives: the handler runs, or the signal waits while it is blocked. -/
  | signal (k : Kernel) : Move k [] k.raiseChild
  /-- Something else becomes of a running child: it is stopped, has arranged for signals, or
  keeps signals that there are for later. -/
  | adjust (k : Kernel) (pid : Pid) (f : Child → Child) (hpid : ∀ c, (f c).pid = c.pid)
      (hstate : ∀ c, (f c).state = c.state)
      (hwaiting : ∀ c, ∀ signal ∈ (f c).waiting,
        signal ∈ c.waiting ∨ signal ≤ Signal.greatest) :
      Move k [] (k.updateChild pid f)
  /-- The terminal's stop signal toggles the mode. -/
  | stop (k : Kernel) : Move k [] k.stop
  /-- The shell asks for a signal to be sent to a child. -/
  | send (k : Kernel) (pid : Pid) (signal : Nat) :
      Move k [] { k with sent := k.sent ++ [(pid, signal)] }

/-- Any number of moves, with the ends that come with them. -/
inductive Drift (k : Kernel) : List Fact → Kernel → Prop where
  | refl : Drift k [] k
  | tail {facts later : List Fact} {k' k'' : Kernel} (drift : Drift k facts k')
      (move : Move k' later k'') : Drift k (facts ++ later) k''

/-- The kernel can have become another one by itself. -/
def Drifts (k k' : Kernel) : Prop :=
  ∃ facts, k.Drift facts k'

/-- The signals that children keep for later are signals that there are. -/
def Known (k : Kernel) : Prop :=
  ∀ c ∈ k.children, ∀ signal ∈ c.waiting, signal ≤ Signal.greatest

section Move

variable {k k' : Kernel} {facts : List Fact}

theorem Move.signals_eq (move : Move k facts k') : k'.signals = k.signals := by
  cases move with
  | ends | adjust | send => rfl
  | deliver => exact signals_deliverChild _
  | signal => exact k.signals_raiseChild
  | stop => exact k.signals_stop

theorem Move.sound (move : Move k facts k') (h : k.Sound) : k'.Sound := by
  cases move with
  | ends pid status t hrunning hend => exact h.terminate pid status
  | deliver hblocked hpending => exact .of_deliverPending h.log h.handler
  | signal => exact .of_raiseChild h.log h.handler
  | adjust pid f hpid hstate => exact h.updateChild pid f hpid hstate
  | stop => exact h.stop
  | send pid signal => exact h.of_same rfl rfl rfl rfl

/-- What is not an end is not seen by the shell. -/
theorem Move.unseen (move : Move k [] k') (h : k.Sound) : k.Unseen k' := by
  cases move with
  | deliver hblocked hpending => exact .deliverPending h.log h.handler hblocked
  | signal => exact .raiseChild h.log h.handler
  | adjust pid f hpid hstate => exact .updateChild k pid f hpid hstate
  | stop => exact .stop k
  | send pid signal => exact ⟨rfl, rfl, fun _ => rfl⟩

theorem mem_dropEnded {c : Child} {n : Nat} {cs : List Child} (h : c ∈ dropEnded n cs) :
    c ∈ cs := by
  induction cs generalizing n with
  | nil => cases n <;> exact h
  | cons c' cs ih =>
      cases n with
      | zero => exact h
      | succ n =>
          rw [dropEnded] at h
          split at h
          · rw [List.mem_cons] at h
            exact h.elim (fun hhead => hhead ▸ List.mem_cons_self) fun hmem =>
              List.mem_cons_of_mem _ (ih hmem)
          · exact List.mem_cons_of_mem _ (ih h)

theorem Known.deliverChild (h : k.Known) : k.deliverChild.Known := by
  rw [Kernel.deliverChild]
  split
  · intro c hc
    exact h c (mem_dropEnded hc)
  · exact h

theorem Known.raiseChild (h : k.Known) : k.raiseChild.Known := by
  rw [Kernel.raiseChild]
  split
  · exact h
  · exact h.deliverChild

theorem Known.setMask (h : k.Known) (mask : SignalSet) : (k.setMask mask).Known := by
  rw [setMask_eq]
  split
  · exact Known.deliverChild
      (k := { k with signals := { k.signals with mask }, childPending := false }) h
  · exact h

theorem Known.start (h : k.Known) (pid : Pid) (signals : SignalSetup) :
    (k.start pid signals).Known := by
  intro c hc
  cases List.mem_append.1 hc with
  | inl hold => exact h c hold
  | inr hnew =>
      rw [List.mem_singleton.1 hnew]
      nofun

theorem Known.reap (h : k.Known) (pid : Pid) : (k.reap pid).2.Known := by
  intro c hc
  rw [reap_snd_children] at hc
  exact h c (List.mem_filter.1 hc).1

theorem Move.known (move : Move k facts k') (h : k.Known) : k'.Known := by
  cases move with
  | ends pid status =>
      intro c hc
      obtain ⟨c', hc', rfl⟩ := List.mem_map.1 hc
      split <;> exact h c' hc'
  | deliver => exact Known.deliverChild (k := { k with childPending := false }) h
  | signal => exact h.raiseChild
  | adjust pid f hpid hstate hwaiting =>
      intro c hc signal hsignal
      rcases List.mem_map.1 hc with ⟨c', hc', rfl⟩
      split at hsignal
      · cases hwaiting c' signal hsignal with
        | inl hkept => exact h c' hc' signal hkept
        | inr hle => exact hle
      · exact h c' hc' signal hsignal
  | stop =>
      rw [Kernel.stop]
      split <;> exact h
  | send => exact h

/-- No child starts to run by itself. -/
theorem Move.isRunning_of_isRunning (move : Move k facts k') {pid : Pid}
    (h : k'.isRunning pid = true) : k.isRunning pid = true := by
  rw [← mem_runningPids] at h ⊢
  cases move with
  | ends other status t hrunning hend =>
      rw [runningPids_terminate] at h
      exact (List.mem_filter.1 h).1
  | deliver => rwa [deliverPending, runningPids_deliverChild] at h
  | signal => rwa [runningPids_raiseChild] at h
  | adjust other f hpid hstate => rwa [runningPids_updateChild k other f hpid hstate] at h
  | stop => rwa [(Unseen.stop k).runningPids] at h
  | send => exact h

end Move

section Drift

variable {k k' k'' : Kernel} {facts later : List Fact}

theorem Drift.of_move (move : Move k facts k') : k.Drift facts k' :=
  .tail .refl move

theorem Drift.trans (first : k.Drift facts k') (second : k'.Drift later k'') :
    k.Drift (facts ++ later) k'' := by
  induction second with
  | refl => rwa [List.append_nil]
  | tail drift move ih =>
      rw [← List.append_assoc]
      exact .tail ih move

theorem Drifts.refl (k : Kernel) : k.Drifts k :=
  ⟨[], .refl⟩

theorem Drifts.of_move (move : Move k facts k') : k.Drifts k' :=
  ⟨facts, .of_move move⟩

theorem Drifts.trans (first : k.Drifts k') (second : k'.Drifts k'') : k.Drifts k'' := by
  obtain ⟨facts, hfirst⟩ := first
  rcases second with ⟨later, hsecond⟩
  exact ⟨facts ++ later, hfirst.trans hsecond⟩

theorem Drifts.signals_eq (h : k.Drifts k') : k'.signals = k.signals := by
  obtain ⟨facts, drift⟩ := h
  induction drift with
  | refl => rfl
  | tail drift move ih => exact move.signals_eq.trans ih

theorem Drifts.known (h : k.Drifts k') (hknown : k.Known) : k'.Known := by
  rcases h with ⟨facts, drift⟩
  induction drift with
  | refl => exact hknown
  | tail drift move ih => exact move.known ih

theorem Drifts.isRunning_of_isRunning (h : k.Drifts k') {pid : Pid}
    (hrunning : k'.isRunning pid = true) : k.isRunning pid = true := by
  obtain ⟨facts, drift⟩ := h
  induction drift with
  | refl => exact hrunning
  | tail drift move ih => exact ih (move.isRunning_of_isRunning hrunning)

end Drift

section Signals

/-- A request to send a signal reaches the child, or it fails and nothing comes of it. -/
theorem kill_cases (k : Kernel) (denials : Denials) (pid : Pid) (signal : Nat) :
    ((k.kill denials pid signal).1 = .ok () ∧ (k.kill denials pid signal).2 =
        { k with sent := k.sent ++ [(pid, signal)] }.signalChild pid signal) ∨
      ((∃ e, (k.kill denials pid signal).1 = .error e) ∧
        (k.kill denials pid signal).2 = { k with sent := k.sent ++ [(pid, signal)] }) := by
  rw [kill]
  split
  · exact Or.inr ⟨⟨_, rfl⟩, rfl⟩
  · split
    · exact Or.inr ⟨⟨_, rfl⟩, rfl⟩
    · exact Or.inl ⟨rfl, rfl⟩

theorem isSome_signalStatus {signal : Nat} (h : signal ≤ Signal.greatest) :
    (Termination.ofStatus? (Termination.signalStatus signal)).isSome := by
  have hall : ∀ n : Fin 65,
      (Termination.ofStatus? (Termination.signalStatus n)).isSome := by decide
  exact hall ⟨signal, Nat.lt_succ_of_le h⟩

/-- Only signals that there are end a child. -/
theorem le_greatest_of_ends {signal : Nat} {d : Disposition}
    (h : Signal.reaction signal d = .ends) : signal ≤ Signal.greatest := by
  have hdefault (hends : Signal.defaultReaction signal = .ends) : signal ≤ Signal.greatest := by
    rw [Signal.defaultReaction] at hends
    split at hends
    · cases hends
    · next hthere => exact Nat.le_of_not_lt fun hlt => hthere (Or.inr hlt)
  unfold Signal.reaction at h
  split at h
  · exact hdefault h
  · cases d with
    | default => exact hdefault h
    | ignore => simp only at h; split at h <;> cases h
    | handler => simp only at h; split at h <;> cases h

theorem mem_of_first? {waiting : List Nat} {signal : Nat}
    (h : Signal.first? waiting = some signal) : signal ∈ waiting := by
  have hmem := List.min?_mem h
  split at hmem
  · exact hmem
  · exact (List.mem_filter.1 hmem).1

variable {k : Kernel}

/-- A child is stopped, has arranged for signals, or deals with one. -/
theorem updateChild_drifts (pid : Pid) (f : Child → Child) (hpid : ∀ c, (f c).pid = c.pid)
    (hstate : ∀ c, (f c).state = c.state) (hwaiting : ∀ c, (f c).waiting = c.waiting) :
    k.Drifts (k.updateChild pid f) := by
  refine .of_move (.adjust k pid f hpid hstate fun c signal hsignal => ?_)
  rw [hwaiting] at hsignal
  exact Or.inl hsignal

/-- A child signal that is on its way arrives. One that has waited before stays, and what
arrives is one more. -/
theorem drifts_raiseChild : { k with childPending := true }.Drifts k.raiseChild := by
  cases hblocked : k.signals.childBlocked with
  | true =>
      rw [raiseChild_of_blocked hblocked]
      exact .refl _
  | false =>
      cases hpending : k.childPending with
      | true =>
          have hsame : { k with childPending := true } = k := by rw [← hpending]
          rw [hsame]
          exact .of_move (.signal k)
      | false =>
          have hsame : { k with childPending := false } = k := by rw [← hpending]
          have hdeliver : { k with childPending := true }.deliverPending = k.deliverChild :=
            congrArg Kernel.deliverChild hsame
          rw [raiseChild, hblocked, if_neg Bool.false_ne_true, ← hdeliver]
          exact .of_move (.deliver _ hblocked rfl)

variable (hhandler : k.signals.child = .handler)
include hhandler

/-- A child that ends does so by moves: it ends, and its signal arrives. -/
theorem endChild_drifts (pid : Pid) {status : StatusWord}
    (hend : (Termination.ofStatus? status).isSome) : k.Drifts (k.endChild pid status) := by
  rcases Option.isSome_iff_exists.1 hend with ⟨t, ht⟩
  rw [endChild]
  split
  · exact .refl k
  · next hrunning =>
      rw [Bool.not_eq_true', Bool.not_eq_false] at hrunning
      rw [if_neg (by rw [hhandler]; decide)]
      refine .trans (.of_move (.ends k pid status t hrunning ht)) ?_
      exact drifts_raiseChild (k := { k with children := markEnded pid status k.children })

theorem raiseChange_eq : k.raiseChange = k := by
  rw [raiseChange, hhandler]
  rfl

/-- So does a signal that reaches a child. -/
theorem signalChild_drifts (hknown : k.Known) (pid : Pid) (signal : Nat) :
    k.Drifts (k.signalChild pid signal) := by
  rw [signalChild]
  split
  · exact .refl k
  · next c hfind =>
      have hmem := List.mem_of_find?_eq_some hfind
      split
      · next hends =>
          have hle := le_greatest_of_ends hends
          split
          · refine .of_move (.adjust k pid
              (fun c => { c with waiting := c.waiting ++ [signal] }) (fun _ => rfl)
              (fun _ => rfl) fun c n hn => ?_)
            rw [List.mem_append, List.mem_singleton] at hn
            cases hn with
            | inl hkept => exact Or.inl hkept
            | inr hsame => exact Or.inr (hsame ▸ hle)
          · exact endChild_drifts hhandler pid (isSome_signalStatus hle)
      · split
        · exact .refl k
        · rw [raiseChange_eq (k := k.updateChild pid _) hhandler]
          exact updateChild_drifts pid _ (fun _ => rfl) (fun _ => rfl) (fun _ => rfl)
      · split
        · exact .refl k
        · have hresumed := updateChild_drifts (k := k) pid (fun c => { c with stopped := false })
            (fun _ => rfl) (fun _ => rfl) (fun _ => rfl)
          rw [raiseChange_eq (k := k.updateChild pid _) hhandler]
          split
          · next fatal hfatal =>
              have hle := hknown c hmem fatal (mem_of_first? hfatal)
              refine hresumed.trans ?_
              exact endChild_drifts (k := k.updateChild pid _) hhandler pid
                (isSome_signalStatus hle)
          · exact hresumed
      · exact updateChild_drifts pid _ (fun _ => rfl) (fun _ => rfl) (fun _ => rfl)
      · exact .refl k

omit hhandler in
/-- And a signal that reaches the shell. -/
theorem signalShell_drifts (signal : Nat) : k.Drifts (k.signalShell signal) := by
  rw [signalShell]
  split
  · exact .of_move (.stop k)
  · split
    · exact .of_move (.signal k)
    · exact .refl k

theorem kill_drifts (hknown : k.Known) (denials : Denials) (pid : Pid) (signal : Nat) :
    k.Drifts (k.kill denials pid signal).2 := by
  refine .trans (.of_move (.send k pid signal)) ?_
  obtain ⟨-, hreaches⟩ | ⟨-, hfails⟩ := k.kill_cases denials pid signal
  · rw [hreaches]
    exact signalChild_drifts (k := { k with sent := k.sent ++ [(pid, signal)] }) hhandler hknown
      pid signal
  · rw [hfails]
    exact .refl _

end Signals

end Kernel

end JobShell
