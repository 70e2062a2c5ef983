import SizeFlags.Proofs.Flags.Report
import SizeFlags.Proofs.Program.Serving

set_option autoImplicit false

/-!
# How a run ends

A run leaves an outcome, unless it comes to a fault that is not told to the user.
Main statement: which faults these are, and exactly when a run comes to one.  All
of them are found before anything of a flags file has a meaning: no entry of a
file, no size and no misuse of the command line is ever the cause.
-/

namespace SizeFlags

/-! ## Faults that are told to the user -/

theorem TypeName.isReported_of_resolve {name : Text} {word : WordSize} {fault : Fault}
    (h : resolve name word = .error fault) : fault.isReported = true := by
  unfold resolve at h
  split at h
  · obtain rfl := Except.error.inj h
    rfl
  · split at h
    · obtain rfl := Except.error.inj h
      rfl
    · cases h

theorem Size.isReported_of_read {shape : Shape} {value : Operand} {fault : Fault}
    (h : read shape value = .error fault) : fault.isReported = true := by
  unfold read at h
  dsimp only at h
  split at h
  · cases h
  · obtain rfl := Except.error.inj h
    rfl

namespace Flags

variable {registry : Registry} {word : WordSize} {valueOf? : Text → Option Text} {fault : Fault}

theorem Entry.isReported_of_declaration {entry : Entry}
    (h : entry.declaration registry = .error fault) : fault.isReported = true := by
  unfold declaration at h
  split at h
  · cases h
  · split at h
    · cases h
    · obtain rfl := Except.error.inj h
      rfl

theorem Entry.isReported_of_setting {entry : Entry}
    (h : entry.setting registry word valueOf? = .error fault) : fault.isReported = true := by
  unfold setting at h
  rcases bind_eq_error_iff.mp h with hdeclaration | ⟨⟨name, typeName⟩, _, h⟩
  · exact isReported_of_declaration hdeclaration
  · rcases bind_eq_error_iff.mp h with hshape | ⟨_, _, h⟩
    · exact TypeName.isReported_of_resolve hshape
    · cases h

/-- Once a file has a text, the user is told of everything that is wrong with it. -/
theorem Config.isReported_of_ofText {file : Path} {text : Text}
    (h : ofText registry word valueOf? file text = .error fault) : fault.isReported = true := by
  unfold ofText at h
  rcases bind_eq_error_iff.mp h with hsettings | ⟨settings, _, h⟩
  · obtain ⟨entry, _, hentry⟩ := exists_mem_of_mapM_eq_error hsettings
    exact Entry.isReported_of_setting hentry
  · split at h
    · obtain rfl := Except.error.inj h
      rfl
    · cases h

end Flags

/-! ## Home directories -/

/-- Why the home directory that a path starts from cannot be put in. -/
inductive Homeless (home? : Text → Option Text) (path : Path) : Fault → Prop where
  /-- the name of the user holds the character NUL -/
  | nul {user : Text} (owner : path.owner? = some user) (nul : '\x00' ∈ user) :
      Homeless home? path .embeddedNul
  /-- no home directory is known of the user, or it starts with `~` again -/
  | unknown {user : Text} (owner : path.owner? = some user) (no_nul : '\x00' ∉ user)
      (unknown : ∀ directory ∈ home? user, directory.head? = some '~') :
      Homeless home? path .unknownHome

theorem Path.homeOf_eq_error_iff {home? : Text → Option Text} {user : Text} {cause : HomeFault} :
    homeOf home? user = .error cause ↔
      (cause = .nul ∧ '\x00' ∈ user) ∨
        (cause = .unknown ∧ '\x00' ∉ user ∧
          ∀ directory ∈ home? user, directory.head? = some '~') := by
  unfold homeOf
  by_cases hnul : '\x00' ∈ user
  · simp [hnul, eq_comm]
  · rw [if_neg hnul]
    cases home? user with
    | none => simp [hnul, eq_comm]
    | some directory =>
      by_cases htilde : directory.head? = some '~'
      · simp [hnul, htilde, eq_comm]
      · simp [hnul, htilde]

theorem Path.expandHome_eq_error_iff {home? : Text → Option Text} {path : Path}
    {cause : HomeFault} :
    expandHome home? path = .error cause ↔
      ∃ user, path.owner? = some user ∧ homeOf home? user = .error cause := by
  cases howner : path.owner? with
  | none =>
    rw [expandHome_of_owner?_eq_none howner]
    constructor
    · intro h
      cases h
    · rintro ⟨user, h, _⟩
      cases h
  | some user =>
    unfold expandHome
    rw [howner]
    constructor
    · intro h
      rcases bind_eq_error_iff.mp h with hhome | ⟨_, _, hend⟩
      · exact ⟨user, rfl, hhome⟩
      · cases hend
    · rintro ⟨_, h, hhome⟩
      obtain rfl := Option.some.inj h
      exact bind_eq_error_iff.mpr (.inl hhome)

theorem World.locate_eq_error_iff {world : World} {path : Text} {fault : Fault} :
    world.locate path = .error fault ↔ Homeless world.home? (Path.ofText path) fault := by
  constructor
  · intro h
    unfold World.locate at h
    split at h
    · cases h
    · rename_i hhome
      obtain rfl := Except.error.inj h
      obtain ⟨user, howner, huser⟩ := Path.expandHome_eq_error_iff.mp hhome
      rcases Path.homeOf_eq_error_iff.mp huser with ⟨h, _⟩ | ⟨_, hnul, hunset⟩
      · cases h
      · exact .unknown howner hnul hunset
    · rename_i hhome
      obtain rfl := Except.error.inj h
      obtain ⟨user, howner, huser⟩ := Path.expandHome_eq_error_iff.mp hhome
      rcases Path.homeOf_eq_error_iff.mp huser with ⟨_, hnul⟩ | ⟨h, _⟩
      · exact .nul howner hnul
      · cases h
  · rintro (⟨howner, hnul⟩ | ⟨howner, hnul, hunset⟩)
    · have huser : Path.homeOf world.home? _ = .error .nul :=
        Path.homeOf_eq_error_iff.mpr (.inl ⟨rfl, hnul⟩)
      have hhome := Path.expandHome_eq_error_iff.mpr ⟨_, howner, huser⟩
      unfold World.locate
      rw [hhome]
    · have huser := Path.homeOf_eq_error_iff.mpr (.inr ⟨rfl, hnul, hunset⟩)
      have hhome := Path.expandHome_eq_error_iff.mpr ⟨_, howner, huser⟩
      unfold World.locate
      rw [hhome]

/-! ## Faults that are not -/

/-- Which faults a request can come to that are not told to the user.  Each is about
the options or the path as they were given, or about the bytes under the path. -/
inductive Escape (world : World) (request : Request) : Fault → Prop where
  /-- a size is to be read for a type name that is empty -/
  | emptyTypeName (action : request.action = .parse) (type : request.typeName = .empty)
      (supported : request.word.width? ≠ none) : Escape world request .emptyTypeName
  /-- the path to check is empty -/
  | emptyPath (action : request.action = .check) (target : request.target = .empty) :
      Escape world request .emptyPath
  /-- the home directory that the path to check starts from cannot be put in -/
  | homeless {path : Text} {fault : Fault} (action : request.action = .check)
      (target : request.target = .text path)
      (homeless : Homeless world.home? (Path.ofText path) fault) : Escape world request fault
  /-- the path to check is too long, or the system refuses to follow it or to show the file;
  where nothing is at the path the user is told -/
  | hindered {path : Text} {file : Path} {hindrance : Hindrance}
      (action : request.action = .check) (target : request.target = .text path)
      (located : world.locate path = .ok file) (looked : world.look file = .error hindrance)
      (not_missing : hindrance.isMissing = false) :
      Escape world request (.ofHindrance file hindrance)
  /-- the bytes under the path to check are no text -/
  | undecodable {path : Text} {file : Path} {bytes : Utf8.Bytes} {fault : Utf8.Fault}
      (action : request.action = .check) (target : request.target = .text path)
      (located : world.locate path = .ok file) (looked : world.look file = .ok bytes)
      (undecodable : Utf8.decode bytes = .error fault) :
      Escape world request (.undecodable fault)

theorem Escape.isReported {world : World} {request : Request} {fault : Fault}
    (h : Escape world request fault) : fault.isReported = false := by
  cases h with
  | homeless _ _ homeless => cases homeless <;> rfl
  | @hindered _ _ hindrance => cases hindrance <;> rfl
  | emptyTypeName | emptyPath | undecodable => rfl

namespace World

variable {world : World} {file : Path}

theorem readFlagsFile_of_hindered {hindrance : Hindrance} (h : world.look file = .error hindrance)
    (hmissing : hindrance.isMissing = false) :
    world.readFlagsFile file = .error (.ofHindrance file hindrance) := by
  simp only [readFlagsFile, h, hmissing, Bool.false_eq_true, if_false]

/-- Of what keeps a flags file from being read, the user is told only that it is missing. -/
theorem readFlagsFile_eq_error {fault : Fault} (h : world.readFlagsFile file = .error fault) :
    fault.isReported = true ∨
      (∃ hindrance, world.look file = .error hindrance ∧ hindrance.isMissing = false ∧
        fault = .ofHindrance file hindrance) ∨
      ∃ bytes cause, world.look file = .ok bytes ∧ Utf8.decode bytes = .error cause ∧
        fault = .undecodable cause := by
  unfold readFlagsFile at h
  split at h
  · rename_i bytes hlook
    obtain ⟨cause, hdecode, rfl⟩ := textOf_eq_error_iff.mp h
    exact .inr (.inr ⟨bytes, cause, hlook, hdecode, rfl⟩)
  · rename_i hindrance hlook
    obtain rfl := Except.error.inj h
    split
    · exact .inl rfl
    · rename_i hmissing
      exact .inr (.inl ⟨hindrance, hlook, Bool.eq_false_iff.mpr hmissing, rfl⟩)

end World

namespace Program

open CommandLine Flags

variable {registry : Registry} {world : World}

theorem escape_of_serve_parse {target typeName : Operand} {word : WordSize} {fault : Fault}
    (h : serve registry world ⟨.parse, target, typeName, word⟩ = .error fault)
    (hreported : fault.isReported = false) :
    Escape world ⟨.parse, target, typeName, word⟩ fault := by
  rw [serve_parse] at h
  rcases bind_eq_error_iff.mp h with hshape | ⟨shape, _, h⟩
  · cases typeName with
    | text name =>
      rw [TypeName.isReported_of_resolve hshape] at hreported
      cases hreported
    | empty =>
      unfold TypeName.resolveOperand at hshape
      dsimp only at hshape
      split at hshape
      · obtain rfl := Except.error.inj hshape
        cases hreported
      · rename_i hsupported
        obtain rfl := Except.error.inj hshape
        exact .emptyTypeName rfl rfl hsupported
  · rcases bind_eq_error_iff.mp h with hsize | ⟨_, _, hend⟩
    · rw [Size.isReported_of_read hsize] at hreported
      cases hreported
    · cases hend

theorem serve_check_eq_error_iff {path : Text} {typeName : Operand} {word : WordSize}
    {fault : Fault} :
    serve registry world ⟨.check, .text path, typeName, word⟩ = .error fault ↔
      Config.load registry world path word = .error fault := by
  rw [serve_check, map_eq_error_iff]

theorem escape_of_serve_check {path : Text} {typeName : Operand} {word : WordSize} {fault : Fault}
    (h : serve registry world ⟨.check, .text path, typeName, word⟩ = .error fault)
    (hreported : fault.isReported = false) :
    Escape world ⟨.check, .text path, typeName, word⟩ fault := by
  -- of the stages of loading, the last one always leaves a message
  rcases Config.load_eq_error_iff.mp (serve_check_eq_error_iff.mp h) with
    hlocate | ⟨file, hfile, hread | ⟨text, _, htext⟩⟩
  · exact .homeless rfl rfl (World.locate_eq_error_iff.mp hlocate)
  · rcases World.readFlagsFile_eq_error hread with
      hyes | ⟨hindrance, hlook, hmissing, rfl⟩ | ⟨bytes, cause, hlook, hdecode, rfl⟩
    · rw [hyes] at hreported
      cases hreported
    · exact .hindered rfl rfl hfile hlook hmissing
    · exact .undecodable rfl rfl hfile hlook hdecode
  · rw [Config.isReported_of_ofText htext] at hreported
    cases hreported

/-- A check comes to the fault of the file that it reads. -/
theorem serve_check_of_readFlagsFile {path : Text} {file : Path} {typeName : Operand}
    {word : WordSize} {fault : Fault} (hlocate : world.locate path = .ok file)
    (hread : world.readFlagsFile file = .error fault) :
    serve registry world ⟨.check, .text path, typeName, word⟩ = .error fault :=
  serve_check_eq_error_iff.mpr (Config.load_eq_error_iff.mpr (.inr ⟨file, hlocate, .inl hread⟩))

theorem serve_of_escape {request : Request} {fault : Fault} (h : Escape world request fault) :
    serve registry world request = .error fault := by
  obtain ⟨action, target, typeName, word⟩ := request
  cases h with
  | emptyTypeName haction htype hsupported =>
    obtain rfl : action = .parse := haction
    obtain rfl : typeName = .empty := htype
    have hshape : TypeName.resolveOperand .empty word = .error .emptyTypeName := if_neg hsupported
    rw [serve_parse]
    exact bind_eq_error_iff.mpr (.inl hshape)
  | emptyPath haction htarget =>
    obtain rfl : action = .check := haction
    obtain rfl : target = .empty := htarget
    exact serve_check_empty
  | homeless haction htarget homeless =>
    obtain rfl : action = .check := haction
    obtain rfl : target = .text _ := htarget
    have hlocate := World.locate_eq_error_iff.mpr homeless
    exact serve_check_eq_error_iff.mpr (Config.load_eq_error_iff.mpr (.inl hlocate))
  | hindered haction htarget hlocate hlook hmissing =>
    obtain rfl : action = .check := haction
    obtain rfl : target = .text _ := htarget
    exact serve_check_of_readFlagsFile hlocate (World.readFlagsFile_of_hindered hlook hmissing)
  | undecodable haction htarget hlocate hlook hdecode =>
    obtain rfl : action = .check := haction
    obtain rfl : target = .text _ := htarget
    exact serve_check_of_readFlagsFile hlocate (World.readFlagsFile_of_undecodable hlook hdecode)

theorem escape_of_serve {request : Request} {fault : Fault}
    (h : serve registry world request = .error fault) (hreported : fault.isReported = false) :
    Escape world request fault := by
  obtain ⟨action, target, typeName, word⟩ := request
  match action, target with
  | .parse, _ => exact escape_of_serve_parse h hreported
  | .check, .text path => exact escape_of_serve_check h hreported
  | .check, .empty =>
    obtain rfl := Except.error.inj (serve_check_empty.symm.trans h)
    exact .emptyPath rfl rfl

/-- Serving a request comes to a fault exactly where the request lets one escape. -/
theorem answer_eq_error_iff {request : Request} {fault : Fault} :
    answer registry world request = .error fault ↔ Escape world request fault := by
  rw [answer_eq_error_iff_serve]
  constructor
  · rintro ⟨hserve, hreported⟩
    exact escape_of_serve hserve hreported
  · intro h
    exact ⟨serve_of_escape h, h.isReported⟩

/-! ## Exit statuses -/

theorem Served.status {request : Request} {outcome : Outcome}
    (h : Served registry world request outcome) : outcome.status = 0 ∨ outcome.status = 1 := by
  cases h with
  | size => exact .inl rfl
  | @report _ _ _ config _ =>
    by_cases hrefused : config.refused = []
    · exact .inl (Config.status_check_eq_zero_iff.mpr (congrArg List.length hrefused))
    · exact .inr (Config.status_check_of_refused_ne_nil hrefused)

theorem run_eq_error_iff {line : List Text} {fault : Fault} :
    run world line = .error fault ↔
      ∃ request, readArguments (isolate line) = .ok request ∧ Escape world request fault := by
  cases hread : readArguments (isolate line) with
  | ok request =>
    rw [run_of_request hread, answer_eq_error_iff]
    constructor
    · intro h
      exact ⟨request, rfl, h⟩
    · rintro ⟨_, hrequest, h⟩
      rwa [Except.ok.inj hrequest]
  | error stop =>
    rw [run_of_stop hread]
    constructor
    · intro h
      cases h
    · rintro ⟨_, h, _⟩
      cases h

theorem status_of_run {line : List Text} {outcome : Outcome} (h : run world line = .ok outcome) :
    (outcome.status = 2 ∧ ∃ cause, readArguments (isolate line) = .error (.misuse cause)) ∨
      ((outcome.status = 0 ∨ outcome.status = 1) ∧
        ∀ cause, readArguments (isolate line) ≠ .error (.misuse cause)) := by
  cases run_eq_ok_iff.mp h with
  | misuse hread => exact .inl ⟨rfl, _, hread⟩
  | help hread => exact .inr ⟨.inl rfl, by simp [hread]⟩
  | fault hread => exact .inr ⟨.inr rfl, by simp [hread]⟩
  | served hread hserved => exact .inr ⟨hserved.status, by simp [hread]⟩

/-- A run that leaves no outcome comes to a fault that its request lets escape, and
every such request comes to that fault.  Of the runs that leave an outcome, exactly
those whose arguments are misused end with the status 2; the others end with 0 or 1. -/
theorem run_ends (world : World) (line : List Text) :
    (∀ fault, run world line = .error fault ↔
      ∃ request, readArguments (isolate line) = .ok request ∧ Escape world request fault) ∧
    ∀ outcome, run world line = .ok outcome →
      (outcome.status = 2 ∧ ∃ cause, readArguments (isolate line) = .error (.misuse cause)) ∨
        ((outcome.status = 0 ∨ outcome.status = 1) ∧
          ∀ cause, readArguments (isolate line) ≠ .error (.misuse cause)) :=
  ⟨fun _ => run_eq_error_iff, fun _ => status_of_run⟩

/-- A byte that starts no character is not told of: the run leaves no outcome. -/
theorem run_check_undecodable :
    let world : World :=
      { look := fun _ => .ok [0xFF], valueOf? := fun _ => none, userHome? := fun _ => none }
    run world ["check".toList, "f".toList] = .error (.undecodable ⟨.invalidStart, 0, 0, 0xFF⟩) := by
  decide

end Program

end SizeFlags
