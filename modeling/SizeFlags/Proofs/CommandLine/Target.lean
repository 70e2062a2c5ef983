import SizeFlags.Proofs.CommandLine.Arrangement

set_option autoImplicit false

/-!
# The target among the arguments

Isolation moves the first argument that looks negative behind all others, also on a command
line that could be read as it was.  That does no harm if the argument is the target: what
follows the target are options with their values, since there is no place for another
operand, and options set the same whether the target is placed or not.  Main statement:
whatever is read without isolation is read with it, unless the argument that is moved is
the value of an option.
-/

namespace SizeFlags.CommandLine

/-! ## How tokens are used up -/

/-- Tokens are used up from left to right without a fault: an operand or an unknown argument
by itself, an option together with its value. -/
inductive Uses : Progress → Bool → List Token → Progress → Bool → Prop where
  | nil (progress : Progress) (placed : Bool) : Uses progress placed [] progress placed
  | argument {progress next final : Progress} {placed last : Bool} {t : Text} {rest : List Token}
      (take : progress.take t (operandOf t) = .ok next)
      (uses : Uses next progress.isOpen rest final last) :
      Uses progress placed (.argument t :: rest) final last
  | unknown {progress final : Progress} {placed last : Bool} {t : Text} {rest : List Token}
      (uses : Uses (progress.putAside t) false rest final last) :
      Uses progress placed (.unknown t :: rest) final last
  | joined {progress next final : Progress} {placed last : Bool} {name : OptionName} {value : Text}
      {rest : List Token} (set : progress.setOption name value = .ok next)
      (uses : Uses next false rest final last) :
      Uses progress placed (.option name (some value) :: rest) final last
  | separate {progress next final : Progress} {placed last : Bool} {name : OptionName} {value : Text}
      {rest : List Token} (no_help : ¬ (name = .shortHelp ∨ name = .longHelp))
      (set : progress.setOption name value = .ok next) (uses : Uses next false rest final last) :
      Uses progress placed (.option name none :: .argument value :: rest) final last

namespace Progress

variable {progress next final : Progress} {placed last : Bool} {front rest tokens : List Token}
variable {t : Text} {operand : Operand} {name : OptionName} {value : Text}

theorem useTokens_eq_ok_iff :
    progress.useTokens placed tokens = .ok (final, last) ↔ Uses progress placed tokens final last := by
  constructor
  · intro h
    fun_induction useTokens progress placed tokens with
    | case1 =>
      obtain ⟨rfl, rfl⟩ := Prod.mk.inj (Except.ok.inj h)
      exact .nil _ _
    | case2 _ _ _ _ ih =>
      obtain ⟨_, htake, hrest⟩ := bind_eq_ok_iff.mp h
      exact .argument htake (ih _ hrest)
    | case3 _ _ _ _ ih => exact .unknown (ih h)
    | case4 _ _ _ _ _ ih =>
      obtain ⟨_, hset, hrest⟩ := bind_eq_ok_iff.mp h
      exact .joined hset (ih _ hrest)
    | case5 => cases h
    | case6 _ _ _ hname _ _ ih =>
      obtain ⟨_, hset, hrest⟩ := bind_eq_ok_iff.mp h
      exact .separate hname hset (ih _ hrest)
    | case7 => cases h
  · intro h
    induction h with
    | nil => rfl
    | argument htake _ ih =>
      rw [useTokens, htake]
      exact ih
    | unknown _ ih => rwa [useTokens]
    | joined hset _ ih =>
      rw [useTokens, hset]
      exact ih
    | separate hname hset _ ih =>
      rw [useTokens, if_neg hname, hset]
      exact ih

/-! ## One token -/

/-- An argument becomes the action, then the target, and else is put aside. -/
theorem take_cases (h : progress.take t operand = .ok next) :
    (progress.action = none ∧ ∃ action, Action.ofText? t = some action ∧
        next = { progress with action := some action }) ∨
      (progress.action.isSome = true ∧ progress.target = none ∧
        next = { progress with target := some operand }) ∨
      (progress.isOpen = false ∧ next = progress.putAside t) := by
  unfold take at h
  split at h
  · split at h
    · rename_i hnone _ action haction
      exact Or.inl ⟨hnone, action, haction, (Except.ok.inj h).symm⟩
    · cases h
  · rename_i haction htarget
    exact Or.inr (Or.inl ⟨by rw [haction]; rfl, htarget, (Except.ok.inj h).symm⟩)
  · rename_i haction htarget
    refine Or.inr (Or.inr ⟨?_, (Except.ok.inj h).symm⟩)
    rw [isOpen, haction, htarget]
    rfl

/-- An option sets its value and nothing else. -/
theorem setOption_frame (h : progress.setOption name value = .ok next) :
    next.action = progress.action ∧ next.target = progress.target ∧ next.aside = progress.aside ∧
      ∀ target : Option Operand, { progress with target := target }.setOption name value =
        .ok { next with target := target } := by
  cases name with
  | typeName =>
    obtain rfl := Except.ok.inj h
    exact ⟨rfl, rfl, rfl, fun _ => rfl⟩
  | wordBits =>
    obtain ⟨word, hword, hnext⟩ := bind_eq_ok_iff.mp h
    obtain rfl := Except.ok.inj hnext
    refine ⟨rfl, rfl, rfl, fun target => ?_⟩
    rw [setOption, hword]
    rfl
  | shortHelp => cases h
  | longHelp => cases h

end Progress

/-! ## Many tokens -/

namespace Uses

variable {progress final : Progress} {placed last : Bool} {front rest tokens : List Token}

theorem append {middle : Progress} {between : Bool} (h : Uses progress placed front middle between)
    (hrest : Uses middle between rest final last) :
    Uses progress placed (front ++ rest) final last := by
  induction h with
  | nil => exact hrest
  | argument htake _ ih => exact .argument htake (ih hrest)
  | unknown _ ih => exact .unknown (ih hrest)
  | joined hset _ ih => exact .joined hset (ih hrest)
  | separate hname hset _ ih => exact .separate hname hset (ih hrest)

/-- Tokens can be used up in two parts, unless an option at the end of the first has its value
in the second. -/
theorem split (h : Uses progress placed (front ++ rest) final last)
    (hvalue : ∀ name value, front.getLast? = some (.option name none) →
      rest.head? ≠ some (.argument value)) :
    ∃ middle between, Uses progress placed front middle between ∧
      Uses middle between rest final last := by
  generalize htokens : front ++ rest = tokens at h
  have hlater : ∀ (token : Token) (front : List Token),
      (∀ name value, (token :: front).getLast? = some (.option name none) →
        rest.head? ≠ some (.argument value)) →
        ∀ name value, front.getLast? = some (.option name none) →
          rest.head? ≠ some (.argument value) := by
    intro token front hvalue name value hlast
    refine hvalue name value ?_
    rw [List.getLast?_cons, hlast, Option.getD_some]
  induction h generalizing front with
  | nil progress placed =>
    obtain ⟨rfl, rfl⟩ := List.append_eq_nil_iff.mp htokens
    exact ⟨progress, placed, .nil _ _, .nil _ _⟩
  | argument htake huses ih =>
    rcases List.append_eq_cons_iff.mp htokens with ⟨rfl, rfl⟩ | ⟨front, rfl, hrest⟩
    · exact ⟨_, _, .nil _ _, .argument htake huses⟩
    · obtain ⟨middle, between, hfirst, hsecond⟩ := ih (hlater _ _ hvalue) hrest.symm
      exact ⟨middle, between, .argument htake hfirst, hsecond⟩
  | unknown huses ih =>
    rcases List.append_eq_cons_iff.mp htokens with ⟨rfl, rfl⟩ | ⟨front, rfl, hrest⟩
    · exact ⟨_, _, .nil _ _, .unknown huses⟩
    · obtain ⟨middle, between, hfirst, hsecond⟩ := ih (hlater _ _ hvalue) hrest.symm
      exact ⟨middle, between, .unknown hfirst, hsecond⟩
  | joined hset huses ih =>
    rcases List.append_eq_cons_iff.mp htokens with ⟨rfl, rfl⟩ | ⟨front, rfl, hrest⟩
    · exact ⟨_, _, .nil _ _, .joined hset huses⟩
    · obtain ⟨middle, between, hfirst, hsecond⟩ := ih (hlater _ _ hvalue) hrest.symm
      exact ⟨middle, between, .joined hset hfirst, hsecond⟩
  | separate hname hset huses ih =>
    rcases List.append_eq_cons_iff.mp htokens with ⟨rfl, rfl⟩ | ⟨front, rfl, hrest⟩
    · exact ⟨_, _, .nil _ _, .separate hname hset huses⟩
    · rcases List.append_eq_cons_iff.mp hrest.symm with ⟨rfl, rfl⟩ | ⟨front, rfl, hrest⟩
      · exact absurd rfl (hvalue _ _ rfl)
      · obtain ⟨middle, between, hfirst, hsecond⟩ :=
          ih (hlater _ _ (hlater _ _ hvalue)) (List.cons.inj hrest.symm).2
        exact ⟨middle, between, .separate hname hset hfirst, hsecond⟩

/-- What is put aside stays there. -/
theorem aside_isPrefix (h : Uses progress placed tokens final last) :
    progress.aside <+: final.aside := by
  induction h with
  | nil => exact List.prefix_refl _
  | argument htake _ ih =>
    rcases Progress.take_cases htake with ⟨_, _, _, rfl⟩ | ⟨_, _, rfl⟩ | ⟨_, rfl⟩
    · exact ih
    · exact ih
    · exact (List.prefix_append _ _).trans ih
  | unknown _ ih => exact (List.prefix_append _ _).trans ih
  | joined hset _ ih => rwa [(Progress.setOption_frame hset).2.2.1] at ih
  | separate _ hset _ ih => rwa [(Progress.setOption_frame hset).2.2.1] at ih

theorem aside_ne_nil {t : Text} (h : Uses (progress.putAside t) placed tokens final last) :
    final.aside ≠ [] := by
  intro hnil
  have hprefix : progress.aside ++ [t] <+: final.aside := h.aside_isPrefix
  rw [hnil, List.prefix_nil] at hprefix
  simp at hprefix

/-- Where both operands are given and nothing is put aside, all tokens are options with their
values, and these do not look at the target. -/
theorem retarget (h : Uses progress placed tokens final last) (hclosed : progress.isOpen = false)
    (haside : final.aside = []) (target : Option Operand) (before : Bool) :
    Uses { progress with target := target } before tokens { final with target := target }
        (before && tokens.isEmpty) ∧
      final.action = progress.action ∧ final.target = progress.target := by
  induction h generalizing before with
  | nil progress placed =>
    rw [List.isEmpty_nil, Bool.and_true]
    exact ⟨.nil _ _, rfl, rfl⟩
  | argument htake huses _ =>
    rcases Progress.take_cases htake with ⟨haction, _⟩ | ⟨_, htarget, _⟩ | ⟨_, rfl⟩
    · rw [Progress.isOpen, haction] at hclosed
      cases hclosed
    · rw [Progress.isOpen, htarget, Option.isNone_none, Bool.or_true] at hclosed
      cases hclosed
    · exact absurd haside huses.aside_ne_nil
  | unknown huses _ => exact absurd haside huses.aside_ne_nil
  | joined hset _ ih =>
    obtain ⟨haction, htarget, _, hother⟩ := Progress.setOption_frame hset
    obtain ⟨huses, hkept⟩ := ih (by rwa [Progress.isOpen, haction, htarget]) haside false
    rw [haction, htarget] at hkept
    rw [List.isEmpty_cons, Bool.and_false]
    exact ⟨.joined (hother target) huses, hkept⟩
  | separate hname hset _ ih =>
    obtain ⟨haction, htarget, _, hother⟩ := Progress.setOption_frame hset
    obtain ⟨huses, hkept⟩ := ih (by rwa [Progress.isOpen, haction, htarget]) haside false
    rw [haction, htarget] at hkept
    rw [List.isEmpty_cons, Bool.and_false]
    exact ⟨.separate hname (hother target) huses, hkept⟩

end Uses

/-! ## Arguments that look negative -/

/-- An argument that looks negative is taken for an operand or for an unknown option. -/
theorem eq_of_classifies {t : Text} {token : Token} (hnegative : looksNegative t = true)
    (h : Classifies t token) : token = .argument t ∨ token = .unknown t := by
  have hname : ∀ (name : OptionName) (rest : Text), t ≠ name.toText ++ rest := by
    rintro name rest rfl
    rw [name.not_looksNegative] at hnegative
    cases hnegative
  have hdash : ¬ (t.head? ≠ some '-' ∨ t = ['-']) := by
    rintro (hhead | rfl)
    · rw [looksNegative_of_head?_ne hhead] at hnegative
      cases hnegative
    · cases hnegative
  have hoption : OptionName.ofText? t = none := by
    rw [Option.eq_none_iff_forall_ne_some]
    intro name hfound
    refine hname name [] ?_
    rw [List.append_nil]
    exact OptionName.eq_toText_of_ofText? hfound
  have hjoined : Token.joined? t = none := by
    rw [Token.joined?, Option.bind_eq_none_iff]
    rintro ⟨start, value⟩ hcut
    rw [Option.map_eq_none_iff, Option.eq_none_iff_forall_ne_some]
    intro name hfound
    obtain ⟨ht, _⟩ := Text.eq_of_cutAt? hcut
    refine hname name ('=' :: value) ?_
    rw [ht, show start = name.toText from OptionName.eq_toText_of_ofText? hfound]
  have hdashes : ¬ separator.isPrefixOf t = true := by
    rw [List.isPrefixOf_iff_prefix]
    rintro ⟨rest, rfl⟩
    rw [show separator ++ rest = '-' :: '-' :: rest from rfl, looksNegative_of_two_dashes] at hnegative
    cases hnegative
  have hhelp : ¬ OptionName.shortHelp.toText.isPrefixOf t = true := by
    rw [List.isPrefixOf_iff_prefix]
    rintro ⟨rest, hrest⟩
    exact hname .shortHelp rest hrest.symm
  have hshortened : Token.shortened t = ([], none) := by
    rw [Token.shortened, if_neg hdashes, if_neg hhelp]
  have htoken := h.2
  rw [Token.ofText, if_neg hdash, hoption, hjoined] at htoken
  simp only [hshortened] at htoken
  obtain rfl := Except.ok.inj htoken
  split
  · exact Or.inl rfl
  · exact Or.inr rfl

/-! ## Reading without a separator -/

theorem Tokens.classifies_of_ofArguments {arguments : List Text} {tokens : Tokens}
    (hseparator : separator ∉ arguments) (h : ofArguments arguments = .ok tokens) :
    List.Forall₂ Classifies arguments tokens.before ∧ tokens.after = none := by
  induction arguments generalizing tokens with
  | nil =>
    obtain rfl := Except.ok.inj h
    exact ⟨.nil, rfl⟩
  | cons t rest ih =>
    rw [List.mem_cons, not_or] at hseparator
    rw [ofArguments, if_neg (Ne.symm hseparator.1)] at h
    obtain ⟨token, htoken, h⟩ := bind_eq_ok_iff.mp h
    obtain ⟨others, hothers, h⟩ := bind_eq_ok_iff.mp h
    obtain rfl := Except.ok.inj h
    obtain ⟨hclassifies, hafter⟩ := ih hseparator.2 hothers
    exact ⟨.cons ⟨Ne.symm hseparator.1, htoken⟩ hclassifies, hafter⟩

/-- What is set when a request has been made, with any target. -/
def Progress.ofRequest (request : Request) (target : Option Operand) : Progress :=
  ⟨some request.action, target, request.typeName, request.word, []⟩

theorem Progress.finish_eq_ok_iff {progress : Progress} {request : Request} :
    progress.finish = .ok request ↔ progress = ofRequest request (some request.target) := by
  obtain ⟨action, target, typeName, word, aside⟩ := progress
  constructor
  · intro h
    unfold finish at h
    split at h
    · rename_i haction htarget
      split at h
      · rename_i hnil
        obtain rfl := Except.ok.inj h
        dsimp only at haction htarget hnil
        rw [haction, htarget, hnil]
        rfl
      · cases h
    · cases h
    · cases h
  · intro h
    rw [h]
    rfl

theorem exists_uses_of_readArguments {arguments : List Text} {request : Request}
    (hseparator : separator ∉ arguments) (h : readArguments arguments = .ok request) :
    ∃ tokens last, List.Forall₂ Classifies arguments tokens ∧
      Uses Progress.start false tokens (Progress.ofRequest request (some request.target)) last := by
  unfold readArguments at h
  split at h
  · cases h
  · rename_i tokens htokens
    obtain ⟨hclassifies, hafter⟩ := Tokens.classifies_of_ofArguments hseparator htokens
    obtain ⟨⟨progress, last⟩, huse, h⟩ := bind_eq_ok_iff.mp h
    rw [hafter] at h
    obtain rfl := Progress.finish_eq_ok_iff.mp h
    exact ⟨tokens.before, last, hclassifies, Progress.useTokens_eq_ok_iff.mp huse⟩

/-! ## The target -/

/-- The argument behind these is the value of an option: the last of them is an option without
a value joined to it. -/
def AwaitsValue (arguments : List Text) : Prop :=
  ∃ before option name, arguments = before ++ [option] ∧ Token.ofText option = .ok (.option name none)

theorem getLast?_ne_of_classifies {arguments : List Text} {tokens : List Token}
    (h : List.Forall₂ Classifies arguments tokens) (hvalue : ¬ AwaitsValue arguments)
    (name : OptionName) : tokens.getLast? ≠ some (.option name none) := by
  intro hlast
  obtain ⟨front, rfl⟩ := List.getLast?_eq_some_iff.mp hlast
  obtain ⟨before, others, rfl, _, hothers⟩ := exists_append_of_forall₂ h.flip
  obtain ⟨option, _, hoption, hnil, rfl⟩ := List.forall₂_cons_left_iff.mp hothers
  obtain rfl := List.forall₂_nil_left_iff.mp hnil
  exact hvalue ⟨before, option, name, rfl, hoption.2⟩

variable {left right : List Text} {negative : Text} {request : Request}

/-- An argument that looks negative, on a command line that can be read, is the value of an
option or the target.  The arguments on either side of the target set all the rest,
whatever the target is. -/
theorem exists_uses_around (hseparator : separator ∉ left ++ negative :: right)
    (hnegative : looksNegative negative = true) (hvalue : ¬ AwaitsValue left)
    (h : readArguments (left ++ negative :: right) = .ok request) :
    ∃ front rest middle between, List.Forall₂ Classifies left front ∧
      List.Forall₂ Classifies right rest ∧ Uses .start false front middle between ∧
      middle.action = some request.action ∧ middle.target = none ∧
      request.target = .text negative ∧
      ∀ target placed, Uses { middle with target := target } placed rest
        (.ofRequest request target) (placed && rest.isEmpty) := by
  obtain ⟨tokens, last, hclassifies, huses⟩ := exists_uses_of_readArguments hseparator h
  obtain ⟨front, others, rfl, hfront, hothers⟩ := exists_append_of_forall₂ hclassifies
  obtain ⟨token, rest, htoken, hrest, rfl⟩ := List.forall₂_cons_left_iff.mp hothers
  obtain ⟨middle, between, hfirst, hsecond⟩ :=
    huses.split fun name _ hlast => absurd hlast (getLast?_ne_of_classifies hfront hvalue name)
  have hoperand : operandOf negative = .text negative :=
    if_neg (ne_separator_of_looksNegative hnegative)
  rcases eq_of_classifies hnegative htoken with rfl | rfl
  · cases hsecond with
    | argument htake hafter =>
      rcases Progress.take_cases htake with ⟨_, action, haction, _⟩ | ⟨hsome, hnone, rfl⟩ | ⟨_, rfl⟩
      · unfold Action.ofText? at haction
        have hsame := List.find?_some haction
        rw [← of_decide_eq_true hsame, not_looksNegative_action] at hnegative
        cases hnegative
      · have hclosed : Progress.isOpen { middle with target := some (operandOf negative) } = false := by
          rw [Progress.isOpen, ← Option.not_isSome, hsome]
          rfl
        obtain ⟨_, haction, htarget⟩ := hafter.retarget hclosed rfl none false
        refine ⟨front, rest, middle, between, hfront, hrest, hfirst, haction.symm, hnone, ?_, ?_⟩
        · exact (Option.some.inj htarget).trans hoperand
        · intro target placed
          exact (hafter.retarget hclosed rfl target placed).1
      · exact absurd rfl hafter.aside_ne_nil
  · cases hsecond with
    | unknown hafter => exact absurd rfl hafter.aside_ne_nil

/-- A target that looks negative is read the same behind a separator at the end. -/
theorem readArguments_moved (hseparator : separator ∉ left ++ negative :: right)
    (hnegative : looksNegative negative = true) (hvalue : ¬ AwaitsValue left)
    (h : readArguments (left ++ negative :: right) = .ok request) :
    readArguments (left ++ right ++ [separator, negative]) = .ok request := by
  obtain ⟨front, rest, middle, between, hfront, hrest, hfirst, haction, hnone, htarget, huses⟩ :=
    exists_uses_around hseparator hnegative hvalue h
  have hmiddle : { middle with target := none } = middle := by rw [← hnone]
  have hwhole := hfirst.append (hmiddle ▸ huses none between)
  rw [readArguments_of_useSeparator (List.rel_append hfront hrest)
    (Progress.useTokens_eq_ok_iff.mpr hwhole)
    (Progress.useSeparator_target rfl rfl (Or.inl (ne_separator_of_looksNegative hnegative)))]
  rw [← htarget]
  rfl

/-- The argument is the target by its place: one that looks like no option is the target
there as well. -/
theorem readArguments_replaced (hseparator : separator ∉ left ++ negative :: right)
    (hnegative : looksNegative negative = true) (hvalue : ¬ AwaitsValue left)
    (h : readArguments (left ++ negative :: right) = .ok request) {other : Text}
    (hother : other.head? ≠ some '-') :
    readArguments (left ++ other :: right) = .ok { request with target := .text other } := by
  obtain ⟨front, rest, middle, between, hfront, hrest, hfirst, haction, hnone, _, huses⟩ :=
    exists_uses_around hseparator hnegative hvalue h
  have hclassifies : Classifies other (.argument other) := classifies_argument hother
  have hoperand : operandOf other = .text other := if_neg hclassifies.1
  have htake : middle.take other (operandOf other) =
      .ok { middle with target := some (.text other) } := by
    rw [Progress.take, haction, hnone, hoperand]
  have hwhole := hfirst.append (.argument htake (huses (some (.text other)) middle.isOpen))
  rw [readArguments_of_useTokens (List.rel_append hfront (.cons hclassifies hrest))
    (Progress.useTokens_eq_ok_iff.mpr hwhole)]
  rfl

/-! ## Isolation -/

/-- A command line that can be read is read the same once its negative target is isolated: if
it holds a separator or nothing that looks negative, isolation leaves it as it is, and else
the argument that is moved is the target, if it is not the value of an option.  In any case
isolation keeps all arguments, moves at most one of them, and has nothing left to do the
second time. -/
theorem isolate_harmless (arguments : List Text) :
    (∀ request, readArguments arguments = .ok request →
      (separator ∈ arguments ∨ (∀ t ∈ arguments, looksNegative t = false) →
        readArguments (isolate arguments) = .ok request) ∧
      ∀ left negative right, arguments = left ++ negative :: right → separator ∉ arguments →
        (∀ t ∈ left, looksNegative t = false) → looksNegative negative = true →
        ¬ AwaitsValue left →
        readArguments (isolate arguments) = .ok request ∧ request.target = .text negative ∧
          ∀ other : Text, other.head? ≠ some '-' →
            readArguments (left ++ other :: right) =
              .ok { request with target := .text other }) ∧
    (∃ added, (added = [] ∨ added = [separator]) ∧
      (isolate arguments).Perm (arguments ++ added)) ∧
    (isolate arguments = arguments ∨ ∃ left moved right,
      arguments = left ++ moved :: right ∧
        isolate arguments = left ++ right ++ [separator, moved]) ∧
    isolate (isolate arguments) = isolate arguments := by
  refine ⟨?read, exists_perm_isolate arguments, isolate_cases arguments, isolate_isolate arguments⟩
  intro request h
  refine ⟨?same, ?moved⟩
  case same =>
    rintro (hseparator | hplain)
    · rwa [isolate_of_separator_mem hseparator]
    · rwa [isolate_of_not_looksNegative hplain]
  case moved =>
    rintro left negative right rfl hseparator hplain hnegative hvalue
    have hothers : separator ∉ left ++ right :=
      mt (separator_mem_insert_iff hnegative).mpr hseparator
    refine ⟨?_, ?_, ?_⟩
    · rw [isolate_insert hothers hplain hnegative]
      exact readArguments_moved hseparator hnegative hvalue h
    · obtain ⟨_, _, _, _, _, _, _, _, _, htarget, _⟩ :=
        exists_uses_around hseparator hnegative hvalue h
      exact htarget
    · intro other hother
      exact readArguments_replaced hseparator hnegative hvalue h hother

/-- The target is moved from between two ways to set the type, of which the second has a value
that looks negative as well. -/
theorem isolate_harmless_betweenTypes :
    readArguments ["--type".toList, "size_t".toList, "parse".toList, "-7".toList, "--ty".toList,
        "-3".toList] = .ok ⟨.parse, .text "-7".toList, .text "-3".toList, .bits 64⟩ ∧
      ¬ AwaitsValue ["--type".toList, "size_t".toList, "parse".toList] ∧
      isolate ["--type".toList, "size_t".toList, "parse".toList, "-7".toList, "--ty".toList,
        "-3".toList] = ["--type".toList, "size_t".toList, "parse".toList, "--ty".toList,
          "-3".toList, "--".toList, "-7".toList] ∧
      readArguments (isolate ["--type".toList, "size_t".toList, "parse".toList, "-7".toList,
        "--ty".toList, "-3".toList]) =
          .ok ⟨.parse, .text "-7".toList, .text "-3".toList, .bits 64⟩ ∧
      readArguments ["--type".toList, "size_t".toList, "parse".toList, "8K".toList, "--ty".toList,
        "-3".toList] = .ok ⟨.parse, .text "8K".toList, .text "-3".toList, .bits 64⟩ := by
  have hread : readArguments ["--type".toList, "size_t".toList, "parse".toList, "-7".toList,
      "--ty".toList, "-3".toList] = .ok ⟨.parse, .text "-7".toList, .text "-3".toList, .bits 64⟩ :=
    by decide
  have hvalue : ¬ AwaitsValue ["--type".toList, "size_t".toList, "parse".toList] := by
    rintro ⟨before, option, name, hlast, hoption⟩
    obtain rfl : "parse".toList = option := by
      have hsame := congrArg List.getLast? hlast
      rw [List.getLast?_concat] at hsame
      exact Option.some.inj hsame
    cases hoption
  obtain ⟨hharmless, _, htarget⟩ := ((isolate_harmless _).1 _ hread).2
    ["--type".toList, "size_t".toList, "parse".toList] "-7".toList ["--ty".toList, "-3".toList]
    rfl (by decide) (by decide) (by decide) hvalue
  exact ⟨hread, hvalue, by decide, hharmless, htarget "8K".toList (by decide)⟩

end SizeFlags.CommandLine
