import SizeFlags.Program
import SizeFlags.Proofs.Flags.Loading
import SizeFlags.Proofs.Size.Grammar

set_option autoImplicit false

/-!
# Serving a request

A run serves the request that its arguments make, if they make one.  What the two
kinds of request come to is then one equation each: a size is read for the shape
that its type names, and a flags file is loaded and then checked.  From these, every
outcome of a run falls under one of four ways to end.
-/

namespace SizeFlags.Program

open CommandLine Flags

variable {registry : Registry} {world : World} {typeName : Operand} {word : WordSize}

theorem run_of_request {line : List Text} {request : Request}
    (h : readArguments (isolate line) = .ok request) :
    run world line = answer .standard world request := by
  rw [run, h]

theorem run_of_stop {line : List Text} {stop : Stop}
    (h : readArguments (isolate line) = .error stop) :
    run world line = .ok (stop.outcome world.columns) := by
  rw [run, h]

theorem serve_parse (target : Operand) :
    serve registry world ⟨.parse, target, typeName, word⟩ =
      (do
        let shape ← TypeName.resolveOperand typeName word
        let size ← Size.read shape target
        return .success (Text.ofInt size ++ ['\n'])) := by
  unfold serve
  show (TypeName.resolveOperand typeName word >>= _) >>= _ = _
  cases TypeName.resolveOperand typeName word <;> rfl

theorem serve_check (path : Text) :
    serve registry world ⟨.check, .text path, typeName, word⟩ =
      (Config.load registry world path word).map Config.check := by
  unfold serve
  show (Config.load registry world path word >>= _) >>= _ = _
  cases Config.load registry world path word <;> rfl

theorem serve_check_empty :
    serve registry world ⟨.check, .empty, typeName, word⟩ = .error .emptyPath := rfl

/-! ## Outcomes -/

/-- What a request leaves when it is served. -/
inductive Served (registry : Registry) (world : World) : Request → Outcome → Prop where
  | size {target : Text} {typeName : Operand} {word : WordSize} {shape : Shape} {size : Int}
      (resolved : TypeName.resolveOperand typeName word = .ok shape)
      (read : Size.read? shape target = some size) :
      Served registry world ⟨.parse, .text target, typeName, word⟩
        (.success (Text.ofInt size ++ ['\n']))
  | report {path : Text} {typeName : Operand} {word : WordSize} {config : Config}
      (loaded : Config.load registry world path word = .ok config) :
      Served registry world ⟨.check, .text path, typeName, word⟩ config.check

theorem serve_eq_ok_iff {request : Request} {outcome : Outcome} :
    serve registry world request = .ok outcome ↔ Served registry world request outcome := by
  constructor
  · intro h
    obtain ⟨action, target, typeName, word⟩ := request
    match action, target with
    | .parse, target =>
      rw [serve_parse] at h
      obtain ⟨shape, hshape, hrest⟩ := bind_eq_ok_iff.mp h
      obtain ⟨size, hsize, hend⟩ := bind_eq_ok_iff.mp hrest
      obtain ⟨t, rfl, hread⟩ := Size.read_eq_ok_iff.mp hsize
      obtain rfl := Except.ok.inj hend
      exact .size hshape hread
    | .check, .text path =>
      rw [serve_check] at h
      obtain ⟨config, hload, rfl⟩ := map_eq_ok_iff.mp h
      exact .report hload
    | .check, .empty =>
      rw [serve_check_empty] at h
      cases h
  · intro h
    cases h with
    | size hshape hread =>
      rw [serve_parse]
      have hsize := Size.read_eq_ok_iff.mpr ⟨_, rfl, hread⟩
      exact bind_eq_ok_iff.mpr ⟨_, hshape, bind_eq_ok_iff.mpr ⟨_, hsize, rfl⟩⟩
    | report hload =>
      rw [serve_check]
      exact map_eq_ok_iff.mpr ⟨_, hload, rfl⟩

theorem ofFault_eq_ok_iff {fault : Fault} {outcome : Outcome} :
    Outcome.ofFault fault = .ok outcome ↔
      fault.isReported = true ∧ outcome = .failure fault.message := by
  unfold Outcome.ofFault
  split
  · rename_i hreported
    simp [hreported, eq_comm]
  · rename_i hreported
    simp [hreported]

theorem answer_eq_ok_iff {request : Request} {outcome : Outcome} :
    answer registry world request = .ok outcome ↔
      Served registry world request outcome ∨
        ∃ fault, serve registry world request = .error fault ∧ fault.isReported = true ∧
          outcome = .failure fault.message := by
  rw [← serve_eq_ok_iff, answer]
  cases serve registry world request with
  | ok served => simp
  | error fault => simp [ofFault_eq_ok_iff]

theorem ofFault_eq_error_iff {fault cause : Fault} :
    Outcome.ofFault fault = .error cause ↔ fault = cause ∧ cause.isReported = false := by
  unfold Outcome.ofFault
  split
  · rename_i hreported
    simp only [reduceCtorEq, false_iff, not_and]
    rintro rfl
    simp [hreported]
  · rename_i hreported
    rw [Except.error.injEq, iff_self_and]
    rintro rfl
    exact Bool.eq_false_iff.mpr hreported

theorem answer_eq_error_iff_serve {request : Request} {fault : Fault} :
    answer registry world request = .error fault ↔
      serve registry world request = .error fault ∧ fault.isReported = false := by
  rw [answer]
  cases serve registry world request with
  | ok served => simp
  | error cause => simp [ofFault_eq_error_iff]

section

variable {shape : Shape} {t : Text}

/-- A size of a known shape is printed. -/
theorem answer_parse_of_size (hshape : TypeName.resolveOperand typeName word = .ok shape)
    {size : Int} (hsize : Size.read? shape t = some size) :
    answer registry world ⟨.parse, .text t, typeName, word⟩ =
      .ok (.success (Text.ofInt size ++ ['\n'])) :=
  answer_eq_ok_iff.mpr (.inl (.size hshape hsize))

/-- The user is told of a text that is no size of a known shape. -/
theorem answer_parse_of_no_size (hshape : TypeName.resolveOperand typeName word = .ok shape)
    (hsize : Size.read? shape t = none) :
    answer registry world ⟨.parse, .text t, typeName, word⟩ =
      .ok (.failure (Fault.invalidSize shape.name (.text t)).message) := by
  have hread : Size.read shape (.text t) = .error (.invalidSize shape.name (.text t)) := by
    unfold Size.read
    simp only [hsize]
  have hserve : serve registry world ⟨.parse, .text t, typeName, word⟩ =
      .error (.invalidSize shape.name (.text t)) := by
    rw [serve_parse]
    exact bind_eq_error_iff.mpr (.inr ⟨shape, hshape, bind_eq_error_iff.mpr (.inl hread)⟩)
  exact answer_eq_ok_iff.mpr (.inr ⟨_, hserve, rfl, rfl⟩)

end

/-- A file that can be loaded is checked. -/
theorem answer_check_of_load {path : Text} {config : Config}
    (hload : Config.load registry world path word = .ok config) :
    answer registry world ⟨.check, .text path, typeName, word⟩ = .ok config.check :=
  answer_eq_ok_iff.mpr (.inl (.report hload))

/-- How a run ends that leaves an outcome. -/
inductive Ending (world : World) (line : List Text) : Outcome → Prop where
  /-- help was asked for -/
  | help (asked : readArguments (isolate line) = .error .help) :
      Ending world line (.success (Text.ofLines (help world.columns)))
  /-- the arguments make no request -/
  | misuse {cause : Misuse} (misused : readArguments (isolate line) = .error (.misuse cause)) :
      Ending world line ⟨2, [], misuseText world.columns cause⟩
  /-- the user is told of a fault -/
  | fault {request : Request} {fault : Fault}
      (requested : readArguments (isolate line) = .ok request)
      (failed : serve .standard world request = .error fault)
      (reported : fault.isReported = true) : Ending world line (.failure fault.message)
  | served {request : Request} {outcome : Outcome}
      (requested : readArguments (isolate line) = .ok request)
      (served : Served .standard world request outcome) : Ending world line outcome

theorem run_eq_ok_iff {line : List Text} {outcome : Outcome} :
    run world line = .ok outcome ↔ Ending world line outcome := by
  constructor
  · intro h
    cases hread : readArguments (isolate line) with
    | ok request =>
      rw [run_of_request hread] at h
      rcases answer_eq_ok_iff.mp h with hserved | ⟨fault, hfault, hreported, rfl⟩
      · exact .served hread hserved
      · exact .fault hread hfault hreported
    | error stop =>
      rw [run_of_stop hread] at h
      obtain rfl := Except.ok.inj h
      cases stop with
      | help => exact .help hread
      | misuse cause => exact .misuse hread
  · intro h
    cases h with
    | help hread => exact run_of_stop hread
    | misuse hread => exact run_of_stop hread
    | fault hread hfault hreported =>
      rw [run_of_request hread]
      exact answer_eq_ok_iff.mpr (.inr ⟨_, hfault, hreported, rfl⟩)
    | served hread hserved =>
      rw [run_of_request hread]
      exact answer_eq_ok_iff.mpr (.inl hserved)

end SizeFlags.Program
