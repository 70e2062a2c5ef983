import SizeFlags.Program
import SizeFlags.Proofs.CommandLine.OptionGroup
import SizeFlags.Proofs.Flags.Loading

set_option autoImplicit false

/-!
# Arrangements of a command line

A request can be written in many ways: options may stand anywhere, the target
anywhere behind the action, and a target that looks negative anywhere at all.
Main statement: every way of writing a request is answered as the request is.
The arguments are classified as a whole, so that the proof can then go through
them from left to right, from what has been settled to what is settled next.
-/

namespace SizeFlags.CommandLine

open OptionGroup

/-- The ways to write an action, a target and option groups as arguments. -/
inductive Arrangement (action : Action) (target : Text) : List OptionGroup → List Text → Prop where
  /-- The action and the target stand between groups, the target behind the action. -/
  | inOrder (before between after : List OptionGroup) :
      Arrangement action target (before ++ between ++ after)
        (before.flatMap arguments ++ action.toText ::
          (between.flatMap arguments ++ target :: after.flatMap arguments))
  /-- The action stands between groups.  The target looks negative and may stand
  anywhere, even in front of the action or inside of a group. -/
  | anywhere (before after : List OptionGroup) (left right : List Text)
      (negative : looksNegative target = true)
      (others : left ++ right =
        before.flatMap arguments ++ action.toText :: after.flatMap arguments) :
      Arrangement action target (before ++ after) (left ++ target :: right)

/-! ## Reading what has been classified -/

section

variable {front : List Text} {tokens : List Token} {progress : Progress} {placed : Bool}

theorem readArguments_of_useTokens (hclassifies : List.Forall₂ Classifies front tokens)
    (huse : Progress.start.useTokens false tokens = .ok (progress, placed)) :
    readArguments front = progress.finish := by
  have htokens : Tokens.ofArguments (front ++ []) = .ok ⟨tokens, none⟩ :=
    Tokens.ofArguments_append hclassifies rfl
  rw [List.append_nil] at htokens
  unfold readArguments
  simp only [htokens, huse]
  rfl

theorem readArguments_of_useSeparator (hclassifies : List.Forall₂ Classifies front tokens)
    (huse : Progress.start.useTokens false tokens = .ok (progress, placed)) {after : List Text}
    {next : Progress} (hseparator : progress.useSeparator placed after = .ok next) :
    readArguments (front ++ separator :: after) = next.finish := by
  have hrest : Tokens.ofArguments (separator :: after) = .ok ⟨[], some after⟩ := by
    rw [Tokens.ofArguments, if_pos rfl]
  unfold readArguments
  simp only [Tokens.ofArguments_append hclassifies hrest, huse]
  show (progress.useSeparator placed after >>= Progress.finish) = _
  rw [hseparator]
  rfl

end

/-! ## Operands among the groups -/

theorem classifies_action (action : Action) :
    Classifies action.toText (.argument action.toText) := by
  cases action <;> exact classifies_argument (by decide)

theorem not_looksNegative_action (action : Action) : looksNegative action.toText = false := by
  cases action <;> rfl

namespace Progress

variable {groups : List OptionGroup} {placed : Bool} {rest : List Token}

theorem useTokens_action (action : Action) :
    (settled groups none none).useTokens placed (.argument action.toText :: rest) =
      (settled groups (some action) none).useTokens true rest := by
  cases action <;> rfl

theorem useTokens_target {action : Action} {target : Text} (h : target ≠ separator) :
    (settled groups (some action) none).useTokens placed (.argument target :: rest) =
      (settled groups (some action) (some (.text target))).useTokens true rest := by
  have hoperand : operandOf target = .text target := if_neg h
  rw [useTokens, hoperand]
  rfl

/-- The separator goes with the action if that was placed last, and else with the target. -/
theorem useSeparator_target {progress : Progress} {action : Action} {target : Text}
    (haction : progress.action = some action) (htarget : progress.target = none)
    (h : target ≠ separator ∨ placed = false) :
    progress.useSeparator placed [target] =
      .ok { progress with target := some (.text target) } := by
  obtain ⟨given, open_target, typeName, word, aside⟩ := progress
  obtain rfl : given = some action := haction
  obtain rfl : open_target = none := htarget
  cases placed with
  | false => rfl
  | true =>
    have hoperand : operandOf target = .text target :=
      if_neg (h.resolve_right Bool.noConfusion)
    show takeAll _ [target] = _
    rw [takeAll, hoperand]
    rfl

theorem finish_settled (action : Action) (target : Operand) :
    (settled groups (some action) (some target)).finish =
      .ok ⟨action, target, .text (lastTypeName groups), .bits (lastWord groups).bits⟩ := rfl

end Progress

/-! ## The request that is read -/

/-- The request that an action, a target and option groups make. -/
def requestOf (action : Action) (target : Text) (groups : List OptionGroup) : Request :=
  ⟨action, .text target, .text (lastTypeName groups), .bits (lastWord groups).bits⟩

theorem readArguments_inOrder (action : Action) {target : Text}
    (before between after : List OptionGroup) (htarget : target.head? ≠ some '-') :
    readArguments (before.flatMap arguments ++ action.toText ::
        (between.flatMap arguments ++ target :: after.flatMap arguments)) =
      .ok (requestOf action target (before ++ between ++ after)) := by
  have htoken : Classifies target (.argument target) := classifies_argument htarget
  have hclassifies : List.Forall₂ Classifies
      (before.flatMap arguments ++ action.toText ::
        (between.flatMap arguments ++ target :: after.flatMap arguments))
      (before.flatMap tokens ++ .argument action.toText ::
        (between.flatMap tokens ++ .argument target :: (after.flatMap tokens ++ []))) := by
    rw [List.append_nil]
    exact List.rel_append (classifies_flatMap before) (.cons (classifies_action action)
      (List.rel_append (classifies_flatMap between) (.cons htoken (classifies_flatMap after))))
  rw [readArguments_of_useTokens hclassifies]
  · exact Progress.finish_settled action (.text target)
  · rw [Progress.start_eq_settled, Progress.useTokens_groups, Progress.useTokens_action,
      Progress.useTokens_groups, Progress.useTokens_target htoken.1, Progress.useTokens_groups]
    rfl

/-- Behind a separator any target is taken as it is, unless it is written like the
separator and the separator already goes with the action. -/
theorem readArguments_separated (action : Action) {target : Text} (before after : List OptionGroup)
    (htarget : target ≠ separator ∨ after ≠ []) :
    readArguments (before.flatMap arguments ++ action.toText :: after.flatMap arguments ++
        [separator, target]) = .ok (requestOf action target (before ++ after)) := by
  have hclassifies : List.Forall₂ Classifies
      (before.flatMap arguments ++ action.toText :: after.flatMap arguments)
      (before.flatMap tokens ++ .argument action.toText :: (after.flatMap tokens ++ [])) := by
    rw [List.append_nil]
    exact List.rel_append (classifies_flatMap before)
      (.cons (classifies_action action) (classifies_flatMap after))
  have huse : Progress.start.useTokens false
      (before.flatMap tokens ++ .argument action.toText :: (after.flatMap tokens ++ [])) =
        .ok (Progress.settled (before ++ after) (some action) none, true && after.isEmpty) := by
    rw [Progress.start_eq_settled, Progress.useTokens_groups, Progress.useTokens_action,
      Progress.useTokens_groups]
    rfl
  have hplaced : target ≠ separator ∨ (true && after.isEmpty) = false :=
    htarget.imp_right fun hne => by rw [Bool.true_and, List.isEmpty_eq_false_iff]; exact hne
  rw [readArguments_of_useSeparator hclassifies huse (Progress.useSeparator_target rfl rfl hplaced)]
  exact Progress.finish_settled action (.text target)

/-! ## Arrangements -/

/-- Of the action and the option groups no argument is moved, and none keeps others
from being moved. -/
theorem plain_of_mem {action : Action} {before after : List OptionGroup} {t : Text}
    (h : t ∈ before.flatMap arguments ++ action.toText :: after.flatMap arguments) :
    t ≠ separator ∧ looksNegative t = false := by
  have hgroups : ∀ groups : List OptionGroup, t ∈ groups.flatMap arguments →
      t ≠ separator ∧ looksNegative t = false := by
    intro groups hmem
    obtain ⟨group, _, ht⟩ := List.mem_flatMap.mp hmem
    exact ⟨ne_separator_of_mem ht, not_looksNegative_of_mem ht⟩
  rw [List.mem_append, List.mem_cons] at h
  rcases h with hbefore | rfl | hafter
  · exact hgroups before hbefore
  · exact ⟨(classifies_action action).1, not_looksNegative_action action⟩
  · exact hgroups after hafter

theorem readArguments_isolate_insert {action : Action} {target : Text} {left right : List Text}
    (before after : List OptionGroup) (negative : looksNegative target = true)
    (others : left ++ right =
      before.flatMap arguments ++ action.toText :: after.flatMap arguments) :
    readArguments (isolate (left ++ target :: right)) =
      .ok (requestOf action target (before ++ after)) := by
  have hplain : ∀ t ∈ left ++ right, t ≠ separator ∧ looksNegative t = false := by
    rw [others]
    exact fun t ht => plain_of_mem ht
  have hseparator : separator ∉ left ++ right := fun hmem => (hplain separator hmem).1 rfl
  have hleft : ∀ t ∈ left, looksNegative t = false :=
    fun t ht => (hplain t (List.mem_append_left right ht)).2
  rw [isolate_insert hseparator hleft negative, others]
  exact readArguments_separated action before after (Or.inl (ne_separator_of_looksNegative negative))

/-- However a request is arranged, it is what is read once a negative target is isolated. -/
theorem Arrangement.readArguments_isolate {action : Action} {target : Text}
    {groups : List OptionGroup} {line : List Text}
    (htarget : target.head? ≠ some '-' ∨ looksNegative target = true)
    (h : Arrangement action target groups line) :
    readArguments (isolate line) = .ok (requestOf action target groups) := by
  cases h with
  | anywhere before after left right negative others =>
    exact readArguments_isolate_insert before after negative others
  | inOrder before between after =>
    rcases htarget with hplain | hnegative
    · have hnone : ∀ t ∈ before.flatMap arguments ++ action.toText ::
          (between.flatMap arguments ++ target :: after.flatMap arguments),
          looksNegative t = false := by
        intro t ht
        rw [List.mem_append, List.mem_cons, List.mem_append, List.mem_cons] at ht
        have hothers : t = target ∨
            t ∈ before.flatMap arguments ++ action.toText :: (between ++ after).flatMap arguments := by
          rw [List.mem_append, List.mem_cons, List.flatMap_append, List.mem_append]
          tauto
        rcases hothers with rfl | hmem
        · exact looksNegative_of_head?_ne hplain
        · exact (plain_of_mem hmem).2
      rw [isolate_of_not_looksNegative hnone]
      exact readArguments_inOrder action before between after hplain
    · rw [List.append_assoc, ← List.cons_append, ← List.append_assoc]
      refine readArguments_isolate_insert before (between ++ after) hnegative ?_
      rw [List.flatMap_append, List.append_assoc, List.cons_append]

end SizeFlags.CommandLine

namespace SizeFlags.Program

open CommandLine OptionGroup

/-- Every arrangement of a request is answered as the request is, with the last type
name and the last word size that are given. -/
theorem run_arrangement (world : World) {action : Action} {target : Text}
    {groups : List OptionGroup} {line : List Text}
    (htarget : target.head? ≠ some '-' ∨ looksNegative target = true)
    (h : Arrangement action target groups line) :
    run world line =
      answer .standard world
        ⟨action, .text target, .text (lastTypeName groups), .bits (lastWord groups).bits⟩ := by
  rw [run, h.readArguments_isolate htarget]
  rfl

/-- A negative size between an option and its value, in front of the action. -/
theorem run_arrangement_negative :
    let groups : List OptionGroup :=
      [.separate (.typeName "size_t".toList (by decide)), .joined (.wordBits .bits32),
        .joined (.typeName "intx".toList (by decide))]
    let line := ["--type".toList, "-5K".toList, "size_t".toList, "--word-bits=32".toList,
      "parse".toList, "--type=intx".toList]
    looksNegative "-5K".toList = true ∧ Arrangement .parse "-5K".toList groups line ∧
      run (.ofFile [] []) line = .ok (.success "-5120\n".toList) := by
  intro groups line
  have hnegative : looksNegative "-5K".toList = true := by decide
  have hline : Arrangement .parse "-5K".toList groups line :=
    .anywhere (groups.take 2) (groups.drop 2) (line.take 1) (line.drop 2) hnegative rfl
  exact ⟨hnegative, hline, (run_arrangement (.ofFile [] []) (Or.inr hnegative) hline).trans rfl⟩

end SizeFlags.Program
