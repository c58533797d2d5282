import JobShell.Proofs.Mode.Readers
import JobShell.Proofs.Shell.Going
import Mathlib.Algebra.Ring.Parity

/-!
# The mode at the moment of a launch

A command that carries `&` is launched in the background if and only if the number of toggles
before its dispatch is even (`Shell.background_iff`). For a shell whose programs leave it alone
this is the number of terminal stops among the events of the pauses up to this moment
(`Shell.Goes.background_iff_even`), whatever was announced of them in between.

Together with what the readers of a switch receive this is
`Shell.mode_agrees_with_announcements`.
-/

namespace JobShell

open Machine (Launched)

deriving instance DecidableEq for LineFate

namespace Shell

variable {host : Host} {allows : Shell → String → Prop} {s t : Shell} {line : String}
  {c : Command} {foregroundOnly : Bool} {launched : Launched}

/-- What the switch shows at the dispatch decides. -/
theorem background_iff (hfate : s.fate host line = .dispatched c foregroundOnly (.ok launched))
    (hbackground : c.background = true) :
    (∃ pid, launched = .background pid) ↔
      Even s.pause.machine.kernel.mode.toggles.toNat := by
  obtain ⟨hmode, hanswer⟩ := launched_of_fate hfate
  have hshown := s.pause.machine.kernel.mode.isForegroundOnly_iff
  rw [← hmode] at hshown
  rw [← Nat.not_odd_iff_even, Nat.odd_iff, ← hshown]
  rw [hbackground, Bool.true_and] at hanswer
  cases foregroundOnly with
  | false => simpa using Machine.spawn_background hanswer.symm
  | true =>
      obtain ⟨found, rfl, -⟩ := Machine.spawn_foreground hanswer.symm
      simp

/-- The events that a shell has met up to the dispatch of its next command, and the terminal
stops among them. -/
theorem Goes.met_toggles (hhost : host.SparesParents) (hspared : s.machine.Spared)
    (hstop : s.machine.kernel.signals.stop = .handler) (goes : Goes host allows s t) :
    ∃ met, s.machine.outside.arrivals = met ++ t.pause.machine.outside.arrivals ∧
      t.pause.machine.kernel.mode.toggles =
        s.machine.kernel.mode.toggles + .ofNat (met.flatten.count .stop) := by
  have hsteady : s.machine.Steady True t.pause.machine :=
    goes.pause.steady (fun _ => hhost) fun _ => hspared
  obtain ⟨met, stops, harrivals, hkernel, hstops⟩ := hsteady.met
  refine ⟨met, harrivals, ?_⟩
  rw [hkernel.toggles hstop, hstops trivial]

/-- The number of toggles and that of the terminal stops met have the same parity, even if the
counter has wrapped. -/
theorem even_toNat_ofNat (n : Nat) : Even (UInt64.ofNat n).toNat ↔ Even n := by
  rw [UInt64.toNat_ofNat', Nat.even_iff, Nat.even_iff]
  omega

theorem Goes.background_iff_even (hhost : host.SparesParents) (hspared : s.machine.Spared)
    (hstop : s.machine.kernel.signals.stop = .handler)
    (hfresh : s.machine.kernel.mode.toggles = 0) (goes : Goes host allows s t) :
    ∃ met, s.machine.outside.arrivals = met ++ t.pause.machine.outside.arrivals ∧
      ∀ (line : String) (c : Command) (foregroundOnly : Bool) (launched : Launched),
        t.fate host line = .dispatched c foregroundOnly (.ok launched) → c.background = true →
          ((∃ pid, launched = .background pid) ↔ Even (met.flatten.count .stop)) := by
  obtain ⟨met, harrivals, htoggles⟩ := goes.met_toggles hhost hspared hstop
  refine ⟨met, harrivals, fun line c foregroundOnly launched hfate hbackground => ?_⟩
  rw [background_iff hfate hbackground, htoggles, hfresh, UInt64.zero_add, even_toNat_ofNat]

open ModeSwitch ModeSwitch.Watched in
/-- **The mode and its announcements never disagree.** However fewer than `2 ^ 64` toggles of a
new switch and takings of its readers follow one another, what a reader has received are the
modes that the toggles before its latest taking have entered, in order; the last mode that it
has received is the one that the switch shows at the taking; and takings of others make no
difference to it.

In the shell a command that carries `&` is launched in the background if and only if the number
of toggles before its dispatch is even. This is the number of terminal stops among the events
that the shell has met, wherever they have arrived and whether or not they are announced. The
loop leads along such ways for every source. -/
theorem mode_agrees_with_announcements :
    (∀ (ι : Type) [DecidableEq ι] (actions : List (Action ι)) (reader : ι),
      actions.count .toggle < 2 ^ 64 →
        (after actions).received reader = Mode.alternating (seenBy reader actions) ∧
        ((after (actions ++ [.take reader])).received reader).getLast?.getD .normal =
          (after actions).switch.shown) ∧
    (∀ (ι : Type) [DecidableEq ι] (actions actions' : List (Action ι)) (reader : ι),
      actions.filter (concerns reader) = actions'.filter (concerns reader) →
        (after actions).received reader = (after actions').received reader) ∧
    (∀ (host : Host) (s : Shell) (line : String) (c : Command) (foregroundOnly : Bool)
        (launched : Launched),
      s.fate host line = .dispatched c foregroundOnly (.ok launched) → c.background = true →
        ((∃ pid, launched = .background pid) ↔
          Even s.pause.machine.kernel.mode.toggles.toNat)) ∧
    ∀ (host : Host) (s : Shell), host.SparesParents → s.machine.Spared →
      s.machine.kernel.signals.stop = .handler → s.machine.kernel.mode.toggles = 0 →
        (∀ t, Goes host (fun _ _ => True) s t →
          ∃ met, s.machine.outside.arrivals = met ++ t.pause.machine.outside.arrivals ∧
            ∀ (line : String) (c : Command) (foregroundOnly : Bool) (launched : Launched),
              t.fate host line = .dispatched c foregroundOnly (.ok launched) →
                c.background = true →
                  ((∃ pid, launched = .background pid) ↔ Even (met.flatten.count .stop))) ∧
        ∀ (turns : Nat) (source : LineSource),
          LeadsTo host (fun _ _ => True) s (executeLinesFrom host turns s source) := by
  refine ⟨fun ι _ actions reader h => ?_, fun ι _ actions actions' reader h => ?_,
    fun host s line c foregroundOnly launched hfate hbackground => ?_,
    fun host s hhost hspared hstop hfresh => ⟨fun t goes => ?_, fun turns source => ?_⟩⟩
  · exact ⟨received_after reader h, getLast?_received_take reader h⟩
  · exact received_eq_of_filter_eq h
  · exact background_iff hfate hbackground
  · exact goes.background_iff_even hhost hspared hstop hfresh
  · exact leadsTo_executeLinesFrom (fun _ _ _ => trivial) turns source .refl

/-- Three toggles, of which one reader takes two and then one; and a shell that meets a terminal
stop at each of its first two pauses and announces neither: a command that carries `&` runs in
the foreground after the first of them, and in the background after both. -/
theorem mode_agrees_with_announcements_unannounced :
    (ModeSwitch.Watched.after
        [.toggle, .toggle, .take false, .toggle, .take true, .take false]).received false =
      [.foregroundOnly, .normal, .foregroundOnly] ∧
    ∃ (host : Host) (s : Shell) (c : Command) (launched launched' : Launched),
      s.fate host "p &" = .dispatched c true (.ok launched) ∧
      s.pause.fate host "p &" = .dispatched c false (.ok launched') ∧
      s.pause.machine.kernel.mode.toggles ≠ s.pause.announced ∧
      (¬ ∃ pid, launched = .background pid) ∧ ∃ pid, launched' = .background pid := by
  let host : Host :=
    { run _ around :=
        .ended ⟨around.files, around.ahead, [], [], [], []⟩ (Termination.exitStatus 3) }
  let s : Shell := { machine := {
    kernel := { signals := .forShell {} }
    files := { entries := [([], .directory), (["p"], .program "p")] }
    places := ["/"]
    outside := { arrivals := [[.stop], [.stop]] } } }
  have hhost : host.SparesParents := fun e around => .ended List.not_mem_nil
  obtain ⟨hreaders, -, -, hshell⟩ := mode_agrees_with_announcements
  obtain ⟨hgoes, -⟩ := hshell host s hhost nofun rfl rfl
  obtain ⟨met, harrivals, hfirst⟩ := hgoes s .refl
  obtain ⟨met', harrivals', hsecond⟩ := hgoes s.pause (.pause .refl)
  obtain rfl : [[.stop]] = met := List.append_cancel_right harrivals
  obtain rfl : [[.stop], [.stop]] = met' := List.append_cancel_right harrivals'
  have hforeground : s.fate host "p &" =
      .dispatched { program := "p", background := true } true
        (.ok (.foreground (some (.exited 3)))) := by decide +kernel
  have hbackground : s.pause.fate host "p &" =
      .dispatched { program := "p", background := true } false (.ok (.background 1)) := by
    decide +kernel
  refine ⟨(hreaders Bool _ false (by decide)).1, host, s, _, _, _, hforeground, hbackground,
    by decide, ?_, ?_⟩
  · rw [hfirst "p &" _ _ _ hforeground rfl]
    decide
  · rw [hsecond "p &" _ _ _ hbackground rfl]
    decide

end Shell

end JobShell
