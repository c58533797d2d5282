import JobShell.Failure
import Mathlib.Data.List.Basic

/-!
# Chains of failures

A failure shows its own kind and what it shows as its direct cause, and no more. The links of its
chain are met by going from each of them to what it was caused by, down to one from outside or to
a failure without a cause. So the whole chain is shown because each link shows the rest of it.

A chain is built from the innermost link outwards, each kind put over all that was there before
(`Link.chain`), and met from the outermost link inwards (`Link.descend`).
-/

namespace JobShell

/-- What is met along the causes of a failure. -/
inductive Link where
  | failure (f : Failure)
  | outside (cause : Cause)
deriving DecidableEq

namespace Failure

/-- A failure of a kind in whose context something else went wrong. -/
def inContext (kind : FailureKind) : Option Link → Failure
  | none => bare kind
  | some (.outside cause) => because kind cause
  | some (.failure inner) => wrapping kind inner

/-- The direct cause. -/
def cause? : Failure → Option Link
  | bare _ => none
  | because _ cause => some (.outside cause)
  | wrapping _ inner => some (.failure inner)

@[simp] theorem kind_inContext (kind : FailureKind) (below : Option Link) :
    (inContext kind below).kind = kind := by
  rcases below with _ | _ | _ <;> rfl

@[simp] theorem cause?_inContext (kind : FailureKind) (below : Option Link) :
    (inContext kind below).cause? = below := by
  rcases below with _ | _ | _ <;> rfl

/-- Every failure is a kind over its direct cause. -/
@[simp] theorem inContext_kind_cause? (f : Failure) : inContext f.kind f.cause? = f := by
  cases f <;> rfl

end Failure

namespace Link

def text : Link → String
  | failure f => f.message
  | outside cause => cause.message

/-- The direct cause; what is from outside has none. -/
def cause? : Link → Option Link
  | failure f => f.cause?
  | outside _ => none

/-- What is met after so many steps from a link to its direct cause. -/
def descend : Nat → Option Link → Option Link
  | 0, link => link
  | n + 1, link => descend n (link.bind cause?)

/-- A cause from outside, if there is one, and each kind put over what was there before it, the
last kind of the list first. -/
def chain (kinds : List FailureKind) (cause : Option Cause) : Option Link :=
  kinds.foldr (fun kind below => some (failure (.inContext kind below))) (cause.map outside)

@[simp] theorem chain_nil (cause : Option Cause) : chain [] cause = cause.map outside := rfl

@[simp] theorem chain_cons (kind : FailureKind) (kinds : List FailureKind)
    (cause : Option Cause) :
    chain (kind :: kinds) cause = some (failure (.inContext kind (chain kinds cause))) := rfl

@[simp] theorem descend_none : ∀ n, descend n none = none
  | 0 => rfl
  | n + 1 => descend_none n

end Link

namespace Failure

open Link

/-- A failure shows its kind and its direct cause, and nothing further down by itself. -/
theorem message_inContext (kind : FailureKind) :
    ∀ below : Option Link, (inContext kind below).message =
      ": ".intercalate (kind.message :: (below.map Link.text).toList)
  | none => by simp [inContext, message]
  | some (.outside cause) => by simp [inContext, message, Link.text]
  | some (.failure inner) => by simp [inContext, message, Link.text]

/-- The failure of a list of kinds is the outermost link of the chain that is built from them. -/
theorem chain_eq_ofKinds? : ∀ (kind : FailureKind) (kinds : List FailureKind)
    (cause : Option Cause),
    chain (kind :: kinds) cause = (ofKinds? (kind :: kinds) cause).map failure
  | _, [], none => rfl
  | _, [], some _ => rfl
  | kind, inner :: kinds, cause => by
      have hinner := chain_eq_ofKinds? inner kinds cause
      rw [chain_cons, hinner]
      cases h : ofKinds? (inner :: kinds) cause with
      | none => rw [h] at hinner; cases hinner
      | some f => simp [ofKinds?, h, inContext]

end Failure

namespace Link

/-- The texts of a chain, the outermost first. -/
def texts (kinds : List FailureKind) (cause : Option Cause) : List String :=
  kinds.map FailureKind.message ++ (cause.map Cause.message).toList

@[simp] theorem texts_cons (kind : FailureKind) (kinds : List FailureKind)
    (cause : Option Cause) : texts (kind :: kinds) cause = kind.message :: texts kinds cause := rfl

theorem length_texts (kinds : List FailureKind) (cause : Option Cause) :
    (texts kinds cause).length = kinds.length + cause.toList.length := by
  cases cause <;> simp [texts]

/-- A chain shows the texts of all its links in their order, each of them once. -/
theorem text_chain : ∀ (kinds : List FailureKind) (cause : Option Cause),
    (chain kinds cause).map text =
      if texts kinds cause = [] then none else some (": ".intercalate (texts kinds cause))
  | [], none => rfl
  | [], some cause => by simp [texts, text]
  | kind :: kinds, cause => by
      have hrest := text_chain kinds cause
      rw [chain_cons, Option.map_some, text, Failure.message_inContext, hrest]
      split <;> simp_all [String.intercalate_cons_of_ne_nil]

theorem descend_add (m : Nat) : ∀ (n : Nat) (link : Option Link),
    descend (n + m) link = descend m (descend n link)
  | 0, link => by rw [Nat.zero_add, descend]
  | n + 1, link => by rw [Nat.succ_add, descend, descend, descend_add m n]

/-- The steps down a chain meet what it was built from, the kind put on last first. -/
theorem descend_chain : ∀ (n : Nat) (kinds : List FailureKind) (cause : Option Cause),
    n ≤ kinds.length → descend n (chain kinds cause) = chain (kinds.drop n) cause
  | 0, _, _, _ => rfl
  | n + 1, [], _, h => absurd h (by simp)
  | n + 1, kind :: kinds, cause, h => by
      have hstep : (chain (kind :: kinds) cause).bind cause? = chain kinds cause := by
        simp [cause?]
      rw [descend, hstep, List.drop_succ_cons,
        descend_chain n kinds cause (Nat.le_of_succ_le_succ h)]

/-- There is nothing below a cause from outside. -/
theorem descend_chain_length_succ (kinds : List FailureKind) (cause : Option Cause) :
    descend (kinds.length + 1) (chain kinds cause) = none := by
  rw [descend_add, descend_chain _ _ _ (Nat.le_refl _), List.drop_length, chain_nil]
  cases cause <;> rfl

/-- Every link of a chain shows the texts from its own on, and there are as many links as texts. -/
theorem text_descend_chain (n : Nat) (kinds : List FailureKind) (cause : Option Cause) :
    (descend n (chain kinds cause)).map text =
      if n < (texts kinds cause).length then some (": ".intercalate ((texts kinds cause).drop n))
      else none := by
  by_cases hn : n ≤ kinds.length
  · have hdrop : texts (kinds.drop n) cause = (texts kinds cause).drop n := by
      simp [texts, List.drop_append, hn]
    rw [descend_chain n kinds cause hn, text_chain, hdrop]
    simp only [List.drop_eq_nil_iff, ← Nat.not_lt, ite_not]
  · obtain ⟨m, rfl⟩ : ∃ m, n = kinds.length + 1 + m := ⟨n - (kinds.length + 1), by omega⟩
    have hbeyond : ¬ kinds.length + 1 + m < (texts kinds cause).length := by
      rw [length_texts]
      cases cause <;> simp only [Option.toList_none, Option.toList_some, List.length_nil,
        List.length_singleton] <;> omega
    rw [descend_add, descend_chain_length_succ, descend_none, if_neg hbeyond, Option.map_none]

end Link

namespace Failure

open Link

/-- A chain shows its kinds, and then the cause from outside, if there is one. -/
theorem intercalate_texts {kinds : List FailureKind} (h : kinds ≠ []) (cause : Option Cause) :
    ": ".intercalate (texts kinds cause) =
      ": ".intercalate (kinds.map FailureKind.message) ++
        cause.elim "" fun cause => ": " ++ cause.message := by
  cases cause with
  | none => simp [texts]
  | some cause =>
      rw [texts, String.intercalate_append_of_ne_nil (by simpa using h) (by simp)]
      simp [String.append_assoc]

theorem depth_of_ofKinds? : ∀ {kinds : List FailureKind} {cause : Option Cause} {f : Failure},
    ofKinds? kinds cause = some f → f.depth + 1 = kinds.length + cause.toList.length
  | [_], none, _, rfl => rfl
  | [_], some _, _, rfl => rfl
  | kind :: inner :: kinds, cause, f, h => by
      obtain ⟨below, hbelow, rfl⟩ := Option.map_eq_some_iff.1 h
      have hdepth := depth_of_ofKinds? hbelow
      simp only [depth, List.length_cons] at hdepth ⊢
      omega

/-- **Chains of failures are shown in full and in order.** Kinds, the outermost first, over a
cause from outside or over none, are put one over the other, and the failure that comes out is of
the first kind. It shows the texts of the kinds in their order, joined by `: `, and then the text
of the cause from outside if there is one. The steps from each link to its direct cause lead
through the chain in the order in which it is shown: there is one step less than kinds, and one
more if there is a cause from outside, and every link shows the texts from its own on, so none is
left out or shown twice at any depth. -/
theorem chain_shown_in_full {kinds : List FailureKind} (h : kinds ≠ []) (cause : Option Cause) :
    ∃ f : Failure, ofKinds? kinds cause = some f ∧ chain kinds cause = some (failure f) ∧
      kinds.head? = some f.kind ∧
      f.message = ": ".intercalate (kinds.map FailureKind.message) ++
        (cause.elim "" fun cause => ": " ++ cause.message) ∧
      f.depth = kinds.length - 1 + cause.toList.length ∧
      (∀ n, (descend n (some (failure f))).isSome ↔ n ≤ f.depth) ∧
      (∀ n, n ≤ kinds.length → descend n (some (failure f)) = chain (kinds.drop n) cause) ∧
      ∀ n, n ≤ f.depth → (descend n (some (failure f))).map text =
        some (": ".intercalate ((texts kinds cause).drop n)) := by
  obtain ⟨kind, rest, rfl⟩ := List.exists_cons_of_ne_nil h
  obtain ⟨f, hf⟩ : ∃ f, f = inContext kind (chain rest cause) := ⟨_, rfl⟩
  have hchain : chain (kind :: rest) cause = some (failure f) := by rw [hf, chain_cons]
  have hof : ofKinds? (kind :: rest) cause = some f := by
    rw [chain_eq_ofKinds?] at hchain
    obtain ⟨f', hof, hf'⟩ := Option.map_eq_some_iff.1 hchain
    rw [hof, Link.failure.inj hf']
  have hdepth := depth_of_ofKinds? hof
  have htext (n : Nat) : (descend n (some (failure f))).map text = if n ≤ f.depth then
      some (": ".intercalate ((texts (kind :: rest) cause).drop n)) else none := by
    rw [← hchain, text_descend_chain, length_texts, ← hdepth]
    simp only [Nat.lt_succ_iff]
  refine ⟨f, hof, hchain, ?_, ?_, ?_, fun n => ?_, fun n hn => ?_, fun n hn => ?_⟩
  · rw [hf, kind_inContext, List.head?_cons]
  · rw [← intercalate_texts h]
    exact Option.some.inj (htext 0)
  · rw [List.length_cons] at hdepth ⊢
    omega
  · rw [← Option.isSome_map (f := text), htext n]
    split <;> simp_all
  · rw [← hchain, descend_chain n _ cause hn]
  · rw [htext n, if_pos hn]

/-- A change of directory that failed within a builtin, within a launch. -/
theorem chain_shown_in_full_directoryChange :
    ∃ f : Failure, ofKinds? [.launch "a", .builtinCommand "b", .directoryChange "c"]
        (some (.errno .noEntry)) = some f ∧
      f.message = "a: unable to launch: b: cd: c: No such file or directory (os error 2)" ∧
      f.depth = 3 := by
  have hkinds : [FailureKind.launch "a", .builtinCommand "b", .directoryChange "c"] ≠ [] :=
    List.cons_ne_nil _ _
  obtain ⟨f, hf, -, -, htext, hdepth, -⟩ := chain_shown_in_full hkinds (some (.errno .noEntry))
  exact ⟨f, hf, htext.trans (by decide), hdepth⟩

end Failure

end JobShell
