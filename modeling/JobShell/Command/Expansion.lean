import JobShell.Command.Basic

/-!
# Expansion of the process variable

Every `$$` in a command stands for the process id of the shell. A word is read once from
left to right, in pairs that do not overlap, and what is put in is not read again: of an
odd run of `$` the last one stays.
-/

namespace JobShell

namespace Expansion

/-- Puts `pid` in the place of every pair of `$`. -/
def expandChars (pid : List Char) : List Char → List Char
  | [] => []
  | '$' :: '$' :: cs => pid ++ expandChars pid cs
  | c :: cs => c :: expandChars pid cs

/-- Whether two `$` stand side by side somewhere. -/
def holdsPair : List Char → Bool
  | [] => false
  | '$' :: '$' :: _ => true
  | _ :: cs => holdsPair cs

/-- The expanded word, or `none` for a word that holds nothing to expand. -/
def expandWord? (pid word : String) : Option String :=
  if holdsPair word.toList then some (String.ofList (expandChars pid.toList word.toList))
  else none

def expandWord (pid word : String) : String :=
  (expandWord? pid word).getD word

theorem expandChars_of_not_holdsPair (pid : List Char) {cs : List Char}
    (h : holdsPair cs = false) : expandChars pid cs = cs := by
  fun_induction expandChars pid cs with
  | case1 => rfl
  | case2 cs _ => simp [holdsPair] at h
  | case3 c cs hc ih =>
    rw [ih]
    unfold holdsPair at h
    split at h <;> simp_all

/-- An expanded word is its characters expanded, whether or not it holds a pair. -/
theorem toList_expandWord (pid word : String) :
    (expandWord pid word).toList = expandChars pid.toList word.toList := by
  unfold expandWord expandWord?
  split
  · simp
  · rename_i h
    simp [expandChars_of_not_holdsPair pid.toList (Bool.eq_false_iff.2 h)]

end Expansion

namespace Command

/-- The command with every word of it expanded. -/
def expand (pid : String) (c : Command) : Command where
  program := Expansion.expandWord pid c.program
  arguments := c.arguments.map (Expansion.expandWord pid)
  input := c.input.map (Expansion.expandWord pid)
  output := c.output.map (Expansion.expandWord pid)
  background := c.background

end Command

end JobShell
