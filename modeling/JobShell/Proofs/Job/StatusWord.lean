import JobShell.Proofs.Job.Draining
import JobShell.Proofs.Text.Numerals
import JobShell.Proofs.Text.OneLine

/-!
# Status words

A status word is taken apart by masks and shifts on 32 bits with a sign. `StatusWord.end?` is the
reading by the tests that the system gives for it, and `Termination.ofStatus?` is this reading
(`StatusWord.ofStatus?_eq_end?`). What it depends on is said in bits of the word, and which ends
there are in numbers (`Termination.Possible`).

Distinct ends are written differently, so a report tells who has ended and how
(`Termination.message_injective`, `Job.eq_of_report_eq`).
-/

namespace JobShell

namespace StatusWord

/-- The seven bits that say in which way a process changed state. -/
def lowBits (w : StatusWord) : StatusWord :=
  w &&& 0x7f

def secondByte (w : StatusWord) : StatusWord :=
  (w >>> 8) &&& 0xff

/-- The process exited. -/
def isExit (w : StatusWord) : Bool :=
  w.lowBits == 0

/-- A signal ended the process. In eight bits the number after 0x7f is the least one, so only 0
and 0x7f fail the test. -/
def isSignal (w : StatusWord) : Bool :=
  2 ≤ (w.lowBits + 1).toInt8

/-- The end that a word tells of, if it tells of one. -/
def end? (w : StatusWord) : Option Termination :=
  if w.isExit then some (.exited w.secondByte.toInt)
  else if w.isSignal then some (.signaled w.lowBits.toInt)
  else none

/-- The bits of a word as a number without sign. -/
def bits (w : StatusWord) : Nat :=
  w.toUInt32.toNat

variable {w w' : StatusWord}

section Bits

theorem bits_inj : w.bits = w'.bits ↔ w = w' := by
  constructor
  · intro h
    exact Int32.toBitVec_inj.1 (BitVec.eq_of_toNat_eq h)
  · rintro rfl
    rfl

theorem toInt_eq_bits (h : w.bits < 2 ^ 31) : w.toInt = w.bits := by
  change w.toBitVec.toNat < 2 ^ 31 at h
  change w.toBitVec.toInt = w.toBitVec.toNat
  rw [BitVec.toInt_eq_toNat_cond]
  omega

/-- A mask of the lowest bits leaves a remainder. -/
theorem bits_and {mask : StatusWord} {n : Nat} (hmask : mask.bits = 2 ^ n - 1) :
    bits (w &&& mask) = w.bits % 2 ^ n := by
  have hand : bits (w &&& mask) = w.bits &&& mask.bits := BitVec.toNat_and ..
  rw [hand, hmask, Nat.and_two_pow_sub_one_eq_mod]

theorem bits_lowBits (w : StatusWord) : w.lowBits.bits = w.bits % 128 :=
  bits_and (n := 7) (by decide)

/-- The copies of the sign that a shift moves in are masked out again. -/
theorem bits_secondByte (w : StatusWord) : w.secondByte.bits = w.bits / 256 % 256 := by
  have hshift : bits (w >>> 8) % 256 = w.bits / 256 % 256 := by
    change (w.toBitVec.sshiftRight 8).toNat % 256 = w.toBitVec.toNat / 256 % 256
    have hsigned : (w.toBitVec.sshiftRight 8).toInt = w.toBitVec.toInt >>> (8 : Nat) :=
      BitVec.toInt_sshiftRight
    rw [BitVec.toInt_eq_toNat_cond, BitVec.toInt_eq_toNat_cond,
      Int.shiftRight_eq_div_pow] at hsigned
    have hlt := w.toBitVec.isLt
    omega
  exact (bits_and (n := 8) (by decide)).trans hshift

theorem toInt_lowBits (w : StatusWord) : w.lowBits.toInt = (w.bits % 128 : Nat) := by
  have hbits := w.bits_lowBits
  rw [toInt_eq_bits (by omega), hbits]

theorem toInt_secondByte (w : StatusWord) :
    w.secondByte.toInt = (w.bits / 256 % 256 : Nat) := by
  have hbits := w.bits_secondByte
  rw [toInt_eq_bits (by omega), hbits]

theorem lowBits_eq_iff {mask : StatusWord} : w.lowBits = mask ↔ w.bits % 128 = mask.bits := by
  rw [← bits_inj, bits_lowBits]

theorem isExit_iff : w.isExit = true ↔ w.bits % 128 = 0 := by
  rw [isExit, beq_iff_eq, lowBits_eq_iff]
  rfl

/-- Only 0 and 0x7f have a successor that is less than 2 in eight bits with a sign. -/
theorem isSignal_iff : w.isSignal = true ↔ w.bits % 128 ≠ 0 ∧ w.bits % 128 ≠ 127 := by
  have hsucc : (w.lowBits + 1).toInt = w.bits % 128 + 1 := by
    have hone : (1 : Int32).toInt = 1 := by decide
    rw [Int32.toInt_add, toInt_lowBits, hone, Int.bmod_eq_of_le] <;> omega
  have hbyte : (w.lowBits + 1).toInt8.toInt = (w.bits % 128 + 1 : Int).bmod 256 := by
    rw [Int32.toInt_toInt8, hsucc]
  have htwo : (2 : Int8).toInt = 2 := by decide
  rw [isSignal, decide_eq_true_iff, Int8.le_iff_toInt_le, htwo, hbyte, Int.bmod_def]
  omega

end Bits

/-- In bits, the reading is by quotient and remainder. -/
theorem ofStatus?_eq (w : StatusWord) :
    Termination.ofStatus? w =
      if w.bits % 128 = 0 then some (.exited (w.bits / 256 % 256 : Nat))
      else if w.bits % 128 = 127 then none
      else some (.signaled (w.bits % 128 : Nat)) :=
  rfl

/-- The reading is that by the tests of the system. -/
theorem ofStatus?_eq_end? (w : StatusWord) : Termination.ofStatus? w = w.end? := by
  have hexit := w.isExit_iff
  have hsignal := w.isSignal_iff
  rw [ofStatus?_eq, end?, toInt_secondByte, toInt_lowBits]
  split_ifs <;> simp_all

/-- The three kinds of words. -/
theorem ofStatus?_cases (w : StatusWord) :
    (w &&& 0x7f = 0 ∧
        Termination.ofStatus? w = some (.exited ((w >>> 8) &&& 0xff).toInt)) ∨
      (w &&& 0x7f = 0x7f ∧ Termination.ofStatus? w = none) ∨
        (w &&& 0x7f ≠ 0 ∧ w &&& 0x7f ≠ 0x7f ∧
          Termination.ofStatus? w = some (.signaled (w &&& 0x7f).toInt)) := by
  have hzero : w &&& 0x7f = 0 ↔ w.bits % 128 = 0 := lowBits_eq_iff
  have hones : w &&& 0x7f = 0x7f ↔ w.bits % 128 = 127 := lowBits_eq_iff
  have hlow : (w &&& 0x7f).toInt = (w.bits % 128 : Nat) := w.toInt_lowBits
  have hbyte : ((w >>> 8) &&& 0xff).toInt = (w.bits / 256 % 256 : Nat) := w.toInt_secondByte
  rw [Ne, Ne, hzero, hones, hlow, hbyte, ofStatus?_eq]
  by_cases hexit : w.bits % 128 = 0
  · exact Or.inl ⟨hexit, if_pos hexit⟩
  · rw [if_neg hexit]
    by_cases hnone : w.bits % 128 = 127
    · exact Or.inr (Or.inl ⟨hnone, if_pos hnone⟩)
    · exact Or.inr (Or.inr ⟨hexit, hnone, if_neg hnone⟩)

end StatusWord

namespace Termination

open StatusWord (bits bits_inj bits_and ofStatus?_cases ofStatus?_eq)

/-- The ends that there are. -/
def Possible : Termination → Prop
  | exited code => 0 ≤ code ∧ code ≤ 255
  | signaled signal => 1 ≤ signal ∧ signal ≤ 126

variable {w w' : StatusWord}

section Reading

theorem ofStatus?_eq_none_iff : ofStatus? w = none ↔ w &&& 0x7f = 0x7f := by
  rcases ofStatus?_cases w with ⟨hzero, hw⟩ | ⟨hones, hw⟩ | ⟨-, hones, hw⟩
  · simp [hw, hzero]
  · simp [hw, hones]
  · simp [hw, hones]

theorem ofStatus?_eq_exited_iff {code : Int} :
    ofStatus? w = some (.exited code) ↔
      w &&& 0x7f = 0 ∧ code = ((w >>> 8) &&& 0xff).toInt := by
  rcases ofStatus?_cases w with ⟨hzero, hw⟩ | ⟨hones, hw⟩ | ⟨hzero, -, hw⟩
  · simp [hw, hzero, eq_comm]
  · simp [hw, hones]
  · simp [hw, hzero]

theorem ofStatus?_eq_signaled_iff {signal : Int} :
    ofStatus? w = some (.signaled signal) ↔
      w &&& 0x7f ≠ 0 ∧ w &&& 0x7f ≠ 0x7f ∧ signal = (w &&& 0x7f).toInt := by
  rcases ofStatus?_cases w with ⟨hzero, hw⟩ | ⟨hones, hw⟩ | ⟨hzero, hones, hw⟩
  · simp [hw, hzero]
  · simp [hw, hones]
  · simp [hw, hzero, hones, eq_comm]

/-- Only the two lowest bytes of a word count. -/
theorem ofStatus?_congr (h : w &&& 0xffff = w' &&& 0xffff) : ofStatus? w = ofStatus? w' := by
  have hmask : bits 0xffff = 2 ^ 16 - 1 := by decide
  rw [← bits_inj, bits_and hmask, bits_and hmask] at h
  have hlow : w.bits % 128 = w'.bits % 128 := by omega
  have hbyte : w.bits / 256 % 256 = w'.bits / 256 % 256 := by omega
  rw [ofStatus?_eq, ofStatus?_eq, hlow, hbyte]

theorem possible_of_ofStatus? {t : Termination} (h : ofStatus? w = some t) : t.Possible := by
  rw [ofStatus?_eq] at h
  split_ifs at h with hexit hnone
  · cases h
    rw [Possible]
    omega
  · cases h
    rw [Possible]
    omega

end Reading

section Writing

variable {code signal : Nat}

theorem bits_exitStatus (h : code ≤ 255) : (exitStatus code).bits = code * 256 := by
  have hbits : (exitStatus code).bits = code % 256 * 256 % 2 ^ 32 := rfl
  omega

theorem bits_signalStatus (h : signal ≤ 126) : (signalStatus signal).bits = signal := by
  have hbits : (signalStatus signal).bits = signal % 128 % 2 ^ 32 := rfl
  omega

/-- The plain word of an exit has the code in its second byte, and nothing else. -/
theorem exitStatus_eq (h : code ≤ 255) : exitStatus code = Int32.ofNat code <<< 8 := by
  have hshift : bits (Int32.ofNat code <<< 8) = code % 2 ^ 32 * 2 ^ 8 % 2 ^ 32 := by
    change (BitVec.ofNat 32 code <<< 8).toNat = _
    rw [BitVec.toNat_shiftLeft, BitVec.toNat_ofNat, Nat.shiftLeft_eq]
  rw [← bits_inj, bits_exitStatus h, hshift]
  omega

theorem signalStatus_eq (h : signal ≤ 126) : signalStatus signal = Int32.ofNat signal := by
  have hnat : bits (Int32.ofNat signal) = signal % 2 ^ 32 := rfl
  rw [← bits_inj, bits_signalStatus h, hnat]
  omega

theorem ofStatus?_exitStatus (h : code ≤ 255) :
    ofStatus? (exitStatus code) = some (.exited code) := by
  have hcode : code * 256 / 256 % 256 = code := by omega
  rw [ofStatus?_eq, bits_exitStatus h, if_pos (by omega), hcode]

theorem ofStatus?_signalStatus (hlow : 1 ≤ signal) (hhigh : signal ≤ 126) :
    ofStatus? (signalStatus signal) = some (.signaled signal) := by
  have hsignal : signal % 128 = signal := by omega
  rw [ofStatus?_eq, bits_signalStatus hhigh, hsignal, if_neg (by omega), if_neg (by omega)]

/-- What is read off words is what there is. -/
theorem exists_ofStatus?_iff {t : Termination} : (∃ w, ofStatus? w = some t) ↔ t.Possible := by
  constructor
  · rintro ⟨w, hw⟩
    exact possible_of_ofStatus? hw
  · intro h
    cases t with
    | exited code =>
        obtain ⟨hlow, hhigh⟩ := h
        obtain ⟨n, rfl⟩ := Int.eq_ofNat_of_zero_le hlow
        exact ⟨_, ofStatus?_exitStatus (by omega)⟩
    | signaled signal =>
        obtain ⟨hlow, hhigh⟩ := h
        obtain ⟨n, rfl⟩ := Int.eq_ofNat_of_zero_le (by omega : 0 ≤ signal)
        exact ⟨_, ofStatus?_signalStatus (by omega) (by omega)⟩

end Writing

section Texts

theorem message_exited (code : Int) : (exited code).message = "exit value " ++ toString code :=
  rfl

theorem message_signaled (signal : Int) :
    (signaled signal).message = "terminated by signal " ++ toString signal :=
  rfl

/-- The texts of the two ways to end have different first characters. -/
theorem message_exited_ne_signaled (code signal : Int) :
    (exited code).message ≠ (signaled signal).message := by
  intro h
  have hexited : (exited code).message.toList.head? = some 'e' := by
    rw [message_exited, String.toList_append]
    rfl
  have hsignaled : (signaled signal).message.toList.head? = some 't' := by
    rw [message_signaled, String.toList_append]
    rfl
  rw [h, hsignaled] at hexited
  exact absurd hexited (by decide)

theorem message_injective : Function.Injective message := by
  intro t t' h
  cases t with
  | exited code =>
      cases t' with
      | exited code' =>
          rw [message_exited, message_exited, String.append_right_inj] at h
          rw [Text.toString_injective h]
      | signaled signal' => exact absurd h (message_exited_ne_signaled code signal')
  | signaled signal =>
      cases t' with
      | exited code' => exact absurd h.symm (message_exited_ne_signaled code' signal)
      | signaled signal' =>
          rw [message_signaled, message_signaled, String.append_right_inj] at h
          rw [Text.toString_injective h]

end Texts

end Termination

/-- The report on a job tells of which child it is, and how it has ended. -/
theorem Job.eq_of_report_eq {job job' : Job} {t t' : Termination}
    (h : (job.finish t).report = (job'.finish t').report) : job.pid = job'.pid ∧ t = t' := by
  have hsplit (job : Job) (t : Termination) : (job.finish t).report.toList =
      "background pid ".toList ++
        ((toString job.pid).toList ++ ' ' :: ("is done: ".toList ++ t.message.toList)) := by
    have hreport : (job.finish t).report =
        "background pid " ++ toString job.pid ++ " is done: " ++ t.message := rfl
    have hblank : " is done: ".toList = ' ' :: "is done: ".toList := by decide
    rw [hreport, String.toList_append, String.toList_append, String.toList_append, hblank,
      List.append_assoc, List.append_assoc, List.cons_append]
  have hblank (n : Int) : ' ' ∉ (toString n).toList :=
    Text.notMem_toString (by decide) (by decide) n
  have hrest := congrArg String.toList h
  rw [hsplit, hsplit] at hrest
  obtain ⟨hpid, hend⟩ := Text.eq_of_append_cons (hblank job.pid) (hblank job'.pid)
    (List.append_cancel_left hrest)
  exact ⟨Text.toString_injective (String.toList_inj.1 hpid),
    Termination.message_injective (String.toList_inj.1 (List.append_cancel_left hend))⟩

namespace Termination

/-- **Status words are decoded exactly.** On every word, negative ones included, the reading is
that by the tests of the system. It yields nothing if and only if the low seven bits are all set,
an exit if and only if none of them is, with the second byte as the code, and otherwise the low
seven bits as the number of a signal. So the bit of a core dump and all higher bits play no part
for a signal, and nothing above the second byte plays one at all. What is read are the codes up
to 255 and the signals from 1 to 126, and each of them is read off its plain word.

Distinct ends are written differently, and so a report tells of which child it is and how it has
ended. -/
theorem decoding_exact :
    (∀ w : StatusWord, ofStatus? w = w.end?) ∧
    (∀ w : StatusWord, ofStatus? w = none ↔ w &&& 0x7f = 0x7f) ∧
    (∀ (w : StatusWord) (code : Int), ofStatus? w = some (.exited code) ↔
      w &&& 0x7f = 0 ∧ code = ((w >>> 8) &&& 0xff).toInt) ∧
    (∀ (w : StatusWord) (signal : Int), ofStatus? w = some (.signaled signal) ↔
      w &&& 0x7f ≠ 0 ∧ w &&& 0x7f ≠ 0x7f ∧ signal = (w &&& 0x7f).toInt) ∧
    (∀ (w w' : StatusWord) (signal : Int), w &&& 0x7f = w' &&& 0x7f →
      (ofStatus? w = some (.signaled signal) ↔ ofStatus? w' = some (.signaled signal))) ∧
    (∀ w w' : StatusWord, w &&& 0xffff = w' &&& 0xffff → ofStatus? w = ofStatus? w') ∧
    (∀ t : Termination, (∃ w, ofStatus? w = some t) ↔ t.Possible) ∧
    (∀ code : Nat, code ≤ 255 → exitStatus code = Int32.ofNat code <<< 8 ∧
      ofStatus? (exitStatus code) = some (.exited code)) ∧
    (∀ signal : Nat, 1 ≤ signal → signal ≤ 126 → signalStatus signal = Int32.ofNat signal ∧
      ofStatus? (signalStatus signal) = some (.signaled signal)) ∧
    Function.Injective message ∧
    ∀ (job job' : Job) (t t' : Termination),
      (job.finish t).report = (job'.finish t').report → job.pid = job'.pid ∧ t = t' := by
  refine ⟨StatusWord.ofStatus?_eq_end?, fun w => ofStatus?_eq_none_iff,
    fun w code => ofStatus?_eq_exited_iff, fun w signal => ofStatus?_eq_signaled_iff,
    fun w w' signal h => ?_, fun w w' h => ofStatus?_congr h, fun t => exists_ofStatus?_iff,
    fun code h => ⟨exitStatus_eq h, ofStatus?_exitStatus h⟩,
    fun signal hlow hhigh => ⟨signalStatus_eq hhigh, ofStatus?_signalStatus hlow hhigh⟩,
    message_injective, fun job job' t t' h => Job.eq_of_report_eq h⟩
  rw [ofStatus?_eq_signaled_iff, ofStatus?_eq_signaled_iff, h]

/-- A fault with a core dump in a negative word, the word of a child that goes on, and a negative
word of an exit. -/
theorem decoding_exact_negative :
    ofStatus? (-0x7fffff75) = some (.signaled 11) ∧ ofStatus? 0xffff = none ∧
      ofStatus? (-256) = some (.exited 255) := by
  obtain ⟨-, hnone, hexited, hsignaled, -⟩ := decoding_exact
  exact ⟨(hsignaled _ _).2 (by decide), (hnone _).2 (by decide), (hexited _ _).2 (by decide)⟩

end Termination

end JobShell
