import SizeFlags.CommandLine.Arguments
import SizeFlags.Proofs.CommandLine.Isolation
import SizeFlags.Proofs.Results

set_option autoImplicit false

/-!
# Option groups

An option and its value stand on the command line as two arguments, or as one
with an equals sign between them.  Both ways set the same, and groups that follow
each other set one value after the other, so that the last one of an option
counts.
-/

namespace SizeFlags.CommandLine

/-- An option that takes a value, and the value.  A type name does not look like an
option itself. -/
inductive Choice where
  | typeName (name : Text) (plain : name.head? ≠ some '-')
  | wordBits (word : Width)

namespace Choice

/-- The option that is given a value. -/
def option : Choice → OptionName
  | typeName .. => .typeName
  | wordBits _ => .wordBits

/-- How the value is written. -/
def value : Choice → Text
  | typeName name _ => name
  | wordBits word => Text.ofNat word.bits

/-- The type name that is chosen. -/
def typeName? : Choice → Option Text
  | typeName name _ => some name
  | wordBits _ => none

/-- The word size that is chosen. -/
def word? : Choice → Option Width
  | typeName .. => none
  | wordBits word => some word

end Choice

/-- An option and its value as they stand on the command line. -/
inductive OptionGroup where
  /-- two arguments -/
  | separate (choice : Choice)
  /-- one argument -/
  | joined (choice : Choice)

namespace OptionGroup

/-- What a group chooses. -/
def choice : OptionGroup → Choice
  | separate choice | joined choice => choice

/-- The arguments of a group. -/
def arguments : OptionGroup → List Text
  | separate choice => [choice.option.toText, choice.value]
  | joined choice => [choice.option.toText ++ '=' :: choice.value]

/-- The type name that the last group with one chooses, `uint64` if there is none. -/
def lastTypeName (groups : List OptionGroup) : Text :=
  (groups.filterMap fun group => group.choice.typeName?).getLast?.getD "uint64".toList

/-- The word size that the last group with one chooses, 64 bits if there is none. -/
def lastWord (groups : List OptionGroup) : Width :=
  (groups.filterMap fun group => group.choice.word?).getLast?.getD .bits64

end OptionGroup

/-! ## Classification -/

/-- An argument that is no separator is taken for a token. -/
def Classifies (t : Text) (token : Token) : Prop := t ≠ separator ∧ Token.ofText t = .ok token

theorem classifies_argument {t : Text} (h : t.head? ≠ some '-') : Classifies t (.argument t) := by
  constructor
  · rintro rfl
    exact h rfl
  · rw [Token.ofText, if_pos (Or.inl h)]

theorem Tokens.ofArguments_cons {t : Text} {token : Token} (h : Classifies t token)
    {rest : List Text} {tokens : Tokens} (hrest : ofArguments rest = .ok tokens) :
    ofArguments (t :: rest) = .ok ⟨token :: tokens.before, tokens.after⟩ := by
  rw [ofArguments, if_neg h.1, h.2, hrest]
  rfl

/-- Arguments with known tokens, before anything that has only a separator. -/
theorem Tokens.ofArguments_append {front : List Text} {tokens : List Token}
    (h : List.Forall₂ Classifies front tokens) {rest : List Text} {after : Option (List Text)}
    (hrest : ofArguments rest = .ok ⟨[], after⟩) :
    ofArguments (front ++ rest) = .ok ⟨tokens, after⟩ := by
  induction h with
  | nil => exact hrest
  | cons hfirst _ ih => exact ofArguments_cons hfirst ih

namespace OptionName

theorem not_mem_equals (name : OptionName) : '=' ∉ name.toText := by
  cases name <;> decide

theorem classifies (name : OptionName) : Classifies name.toText (.option name none) := by
  cases name <;> exact ⟨by decide, rfl⟩

theorem eq_toText_of_ofText? {t : Text} {name : OptionName} (h : ofText? t = some name) :
    t = name.toText := by
  unfold ofText? at h
  have hsame := List.find?_some h
  exact (of_decide_eq_true hsame).symm

/-- Behind its dash an option has no digit. -/
theorem not_looksNegative (name : OptionName) (rest : Text) :
    looksNegative (name.toText ++ rest) = false := by
  cases name with
  | shortHelp =>
    show Text.isDecimalDigit 'h' = false
    decide
  | longHelp => exact looksNegative_of_two_dashes _
  | typeName => exact looksNegative_of_two_dashes _
  | wordBits => exact looksNegative_of_two_dashes _

/-- No option is written with an equals sign. -/
theorem ofText?_joined (name : OptionName) (value : Text) :
    ofText? (name.toText ++ '=' :: value) = none := by
  rw [ofText?, List.find?_eq_none]
  intro other _ hother
  have hmem : '=' ∈ other.toText := by
    rw [of_decide_eq_true hother]
    exact List.mem_append_right _ List.mem_cons_self
  exact other.not_mem_equals hmem

/-- The first equals sign ends the option, whatever the value holds. -/
theorem classifies_joined (name : OptionName) (value : Text) :
    Classifies (name.toText ++ '=' :: value) (.option name (some value)) := by
  have hequals : '=' ∈ name.toText ++ '=' :: value :=
    List.mem_append_right _ List.mem_cons_self
  have hdash : (name.toText ++ '=' :: value).head? = some '-' := by
    cases name <;> rfl
  have hoption : ¬ ((name.toText ++ '=' :: value).head? ≠ some '-' ∨
      name.toText ++ '=' :: value = ['-']) := by
    rintro (hhead | hlone)
    · exact hhead hdash
    · rw [hlone] at hequals
      exact absurd hequals (by decide)
  have hjoined : Token.joined? (name.toText ++ '=' :: value) = some (.option name (some value)) := by
    rw [Token.joined?, Text.cutAt?_append value name.not_mem_equals, Option.bind_some,
      ofText?_toText]
    rfl
  constructor
  · intro hseparator
    rw [hseparator] at hequals
    exact absurd hequals (by decide)
  · rw [Token.ofText, if_neg hoption, name.ofText?_joined, hjoined]

end OptionName

namespace Choice

theorem plain_value (choice : Choice) : choice.value.head? ≠ some '-' := by
  cases choice with
  | typeName name plain => exact plain
  | wordBits word => cases word <;> decide

end Choice

namespace OptionGroup

/-- What the arguments of a group are taken for. -/
def tokens : OptionGroup → List Token
  | separate choice => [.option choice.option none, .argument choice.value]
  | joined choice => [.option choice.option (some choice.value)]

theorem classifies (group : OptionGroup) : List.Forall₂ Classifies group.arguments group.tokens := by
  cases group with
  | separate choice =>
    exact .cons choice.option.classifies (.cons (classifies_argument choice.plain_value) .nil)
  | joined choice => exact .cons (choice.option.classifies_joined choice.value) .nil

theorem classifies_flatMap (groups : List OptionGroup) :
    List.Forall₂ Classifies (groups.flatMap arguments) (groups.flatMap tokens) := by
  induction groups with
  | nil => exact .nil
  | cons group groups ih =>
    rw [List.flatMap_cons, List.flatMap_cons]
    exact List.rel_append group.classifies ih

/-- No argument of a group looks negative: a value has no dash, and an option has two. -/
theorem not_looksNegative_of_mem {group : OptionGroup} {t : Text} (h : t ∈ group.arguments) :
    looksNegative t = false := by
  cases group with
  | separate choice =>
    rcases List.mem_pair.mp h with rfl | rfl
    · rw [← List.append_nil choice.option.toText]
      exact choice.option.not_looksNegative []
    · exact looksNegative_of_head?_ne choice.plain_value
  | joined choice =>
    obtain rfl := List.mem_singleton.mp h
    exact choice.option.not_looksNegative _

theorem ne_separator_of_mem {group : OptionGroup} {t : Text} (h : t ∈ group.arguments) :
    t ≠ separator := by
  obtain ⟨token, _, hclassifies⟩ := exists_mem_of_forall₂ group.classifies.flip h
  exact hclassifies.1

end OptionGroup

/-! ## Use -/

/-- A choice is made by an option that takes a value. -/
theorem Choice.option_ne_help (choice : Choice) :
    ¬ (choice.option = .shortHelp ∨ choice.option = .longHelp) := by
  rintro (h | h) <;> cases choice <;> cases h

namespace Progress

/-- What option groups have set, with operands that may have been placed among them. -/
def settled (groups : List OptionGroup) (action : Option Action) (target : Option Operand) :
    Progress :=
  ⟨action, target, .text (OptionGroup.lastTypeName groups),
    .bits (OptionGroup.lastWord groups).bits, []⟩

variable {action : Option Action} {target : Option Operand}

theorem start_eq_settled : start = settled [] none none := rfl

/-- A later value replaces an earlier one. -/
theorem setOption_settled (groups : List OptionGroup) (group : OptionGroup) :
    (settled groups action target).setOption group.choice.option group.choice.value =
      .ok (settled (groups ++ [group]) action target) := by
  unfold settled OptionGroup.lastTypeName OptionGroup.lastWord
  rw [List.filterMap_append, List.filterMap_append, List.getLast?_append, List.getLast?_append]
  cases hchoice : group.choice with
  | typeName name plain =>
    have hoperand : operandOf name = .text name := if_neg (classifies_argument plain).1
    simp [hchoice, setOption, hoperand, Choice.option, Choice.value, Choice.typeName?, Choice.word?]
  | wordBits word =>
    have hword : wordSizeOf (Choice.wordBits word).value = .ok (.bits word.bits) := by
      cases word <;> rfl
    simp [hchoice, setOption, hword, Choice.option, Choice.typeName?, Choice.word?]

/-- A group is used as a whole, in either way of writing it. -/
theorem useTokens_group (groups : List OptionGroup) (group : OptionGroup) (placed : Bool)
    (rest : List Token) :
    (settled groups action target).useTokens placed (group.tokens ++ rest) =
      (settled (groups ++ [group]) action target).useTokens false rest := by
  cases group with
  | separate choice =>
    have hset : (settled groups action target).setOption choice.option choice.value = _ :=
      setOption_settled groups (.separate choice)
    show useTokens _ placed (.option choice.option none :: .argument choice.value :: rest) = _
    rw [useTokens, if_neg choice.option_ne_help, hset]
    rfl
  | joined choice =>
    have hset : (settled groups action target).setOption choice.option choice.value = _ :=
      setOption_settled groups (.joined choice)
    show useTokens _ placed (.option choice.option (some choice.value) :: rest) = _
    rw [useTokens, hset]
    rfl

theorem useTokens_groups (before groups : List OptionGroup) (placed : Bool)
    (rest : List Token) :
    (settled before action target).useTokens placed (groups.flatMap OptionGroup.tokens ++ rest) =
      (settled (before ++ groups) action target).useTokens (placed && groups.isEmpty) rest := by
  induction groups generalizing before placed with
  | nil => rw [List.flatMap_nil, List.nil_append, List.isEmpty_nil, Bool.and_true, List.append_nil]
  | cons group groups ih =>
    rw [List.flatMap_cons, List.append_assoc, useTokens_group, ih, List.append_assoc,
      Bool.false_and, List.isEmpty_cons, Bool.and_false]
    rfl

end Progress

end SizeFlags.CommandLine
