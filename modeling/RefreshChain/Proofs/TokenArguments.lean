import RefreshChain.Proofs.Administration
import RefreshChain.Proofs.Encoding

/-!
# Tokens as arguments

What becomes of a generated token that is handed to the administration program as an argument. The
characters of tokens include the one that options begin with.

* `Base64Url.head?_encode`: the first character of a token stands for the upper six bits of the
  first byte.
* `CommandLine.command_plain`, `CommandLine.command_short`, `CommandLine.command_long`: the value of
  a command, by its shape. `CommandLine.parse_plain`, `CommandLine.parse_escaped`,
  `CommandLine.parse_dashed`: command lines with a token.
* `generated_token_as_argument`: a token is taken as such just if it does not begin like an option,
  and behind `--` always.
-/

namespace RefreshChain

/-! ## What is generated -/

namespace Base64Url

theorem symbol_ne_equals : ∀ n < 64, symbol n ≠ '=' := by decide

theorem symbol_eq_dash : ∀ n < 64, symbol n = '-' ↔ n = 62 := by decide

theorem equals_not_mem_encode (bytes : List UInt8) : '=' ∉ encode bytes := by
  intro h
  obtain ⟨n, hn, hsymbol⟩ := mem_encode h
  exact symbol_ne_equals n hn hsymbol

theorem head?_encode (bytes : List UInt8) :
    (encode bytes).head? = bytes.head?.map fun a => symbol (a.toNat / 4) := by
  rcases bytes with _ | ⟨a, _ | ⟨b, _ | ⟨c, rest⟩⟩⟩ <;> rfl

/-- A text begins with a dash if the upper six bits of the first byte say so. -/
theorem head?_encode_eq_dash {bytes : List UInt8} :
    (encode bytes).head? = some '-' ↔ ∃ a, bytes.head? = some a ∧ a.toNat / 4 = 62 := by
  rw [head?_encode, Option.map_eq_some_iff]
  refine exists_congr fun a => and_congr_right fun _ => symbol_eq_dash _ ?_
  have := a.toNat_lt
  omega

end Base64Url

/-! ## What is read -/

namespace CommandLine

/-- The commands with a token as their one argument, and what each asks for. -/
inductive TakesToken : CommandName → (String → Command) → Prop where
  | exchange : TakesToken .exchange .exchange
  | revokeFamily : TakesToken .revokeFamily .revokeFamily

variable {name : CommandName} {make : String → Command} {token : String}

/-- Where the environment names the database, the arguments are those of the command. -/
theorem parse_command (hname : name ≠ .help) (url : String) (args : List String) :
    parse (some url) (name.name :: args) = (command name args).map (⟨url, ·⟩) := by
  have hfound : CommandName.ofName? name.name = some name := by cases name <;> decide
  cases name with
  | help => exact absurd rfl hname
  | _ =>
    rw [parse, program]
    simp only [hfound, Url.wantsValue, reduceCtorEq, decide_false, Bool.or_self, Bool.false_eq_true,
      if_false]
    cases command _ args <;> rfl

section

variable (hc : TakesToken name make)

include hc

theorem command_plain (h : Shape.of token = .plain) : command name [token] = .ok (make token) := by
  cases hc <;> simp [command, values, place, settle, CommandLine.places, h] <;> rfl

theorem command_escaped (token : String) : command name ["--", token] = .ok (make token) := by
  cases hc <;> rfl

/-- A value that looks like short options is taken for them. -/
theorem command_short {c : Char} (h : Shape.of token = .short c) :
    command name [token] =
      .error (if c = 'h' then .help (some name) else .misuse (unexpectedShort c)) := by
  by_cases hh : c = 'h'
  · subst hh
    cases hc <;> simp [command, values, settle, h] <;> rfl
  · cases hc <;> simp [command, values, h, hh] <;> rfl

theorem command_long {option : String} (h : Shape.of token = .long option none)
    (hne : option ≠ "help") : command name [token] = .error (.misuse (unexpectedLong option)) := by
  cases hc <;> simp [command, values, h, hne] <;> rfl

end

/-! ## Shapes -/

theorem shape_plain (h : token.toList.head? ≠ some '-') : Shape.of token = .plain := by
  unfold Shape.of
  split <;> simp_all

theorem splitOption_eq_long {cs : List Char} (h : '=' ∉ cs) :
    splitOption cs = .long (String.ofList cs) none := by
  have hall : ∀ c ∈ cs, decide (c ≠ '=') = true := fun c hc =>
    decide_eq_true (ne_of_mem_of_not_mem hc h)
  rw [splitOption, List.takeWhile_eq_self_iff.mpr hall, List.dropWhile_eq_nil_iff.mpr hall]

/-- A text that begins with a dash, is not short and has no equals sign looks like options, and not
like the one for help in full. -/
theorem shape_dashed (h : token.toList.head? = some '-') (hlong : 6 < token.toList.length)
    (heq : '=' ∉ token.toList) :
    ∃ c, token.toList[1]? = some c ∧ (Shape.of token = .short c ∨
      c = '-' ∧ ∃ option, option ≠ "help" ∧ Shape.of token = .long option none) := by
  match hcs : token.toList with
  | [] | [_] | [_, _] => simp [hcs] at hlong
  | d :: c :: more :: rest =>
    obtain rfl : d = '-' := by simpa [hcs] using h
    unfold Shape.of
    rw [hcs] at hlong heq ⊢
    refine ⟨c, rfl, ?_⟩
    by_cases hc : c = '-'
    · subst hc
      have hrest : '=' ∉ more :: rest := fun hmem => heq (.tail _ (.tail _ hmem))
      refine .inr ⟨rfl, String.ofList (more :: rest), fun he => ?_, splitOption_eq_long hrest⟩
      have hlen := congrArg (·.toList.length) he
      simp at hlen hlong
      omega
    · refine .inl ?_
      split <;> simp_all

/-- Where options are read in place of the token, nothing is asked for. -/
theorem command_dashed (hc : TakesToken name make) (h : token.toList.head? = some '-')
    (hlong : 6 < token.toList.length) (heq : '=' ∉ token.toList) :
    ∃ notice, command name [token] = .error notice ∧
      (Admin.Outcome.ofNotice notice).exitCode = if token.toList[1]? = some 'h' then 0 else 2 := by
  obtain ⟨c, hsecond, hshape | ⟨rfl, option, hne, hshape⟩⟩ := shape_dashed h hlong heq
  · refine ⟨_, command_short hc hshape, ?_⟩
    rw [hsecond]
    by_cases hh : c = 'h' <;> simp [hh, Admin.Outcome.ofNotice]
  · refine ⟨_, command_long hc hshape hne, ?_⟩
    rw [hsecond]
    rfl

/-! ## Command lines with a token -/

section

variable (hc : TakesToken name make) (url : String)

include hc

theorem TakesToken.ne_help : name ≠ .help := by cases hc <;> decide

theorem parse_plain (h : token.toList.head? ≠ some '-') :
    parse (some url) [name.name, token] = .ok ⟨url, make token⟩ := by
  rw [parse_command hc.ne_help, command_plain hc (shape_plain h)]
  rfl

theorem parse_escaped (token : String) :
    parse (some url) [name.name, "--", token] = .ok ⟨url, make token⟩ := by
  rw [parse_command hc.ne_help, command_escaped hc]
  rfl

theorem parse_dashed (h : token.toList.head? = some '-') (hlong : 6 < token.toList.length)
    (heq : '=' ∉ token.toList) : ∃ notice, parse (some url) [name.name, token] = .error notice ∧
      (Admin.Outcome.ofNotice notice).exitCode = if token.toList[1]? = some 'h' then 0 else 2 := by
  obtain ⟨notice, hcommand, hcode⟩ := command_dashed hc h hlong heq
  refine ⟨notice, ?_, hcode⟩
  rw [parse_command hc.ne_help, hcommand]
  rfl

end

end CommandLine

/-! ## Generated tokens as arguments -/

namespace Admin

variable {σ : Type} {log : Option String → Log} {contents : Target → Except StoreError Database}
  {service : Config → Service σ} {now : Instant} {environment : Environment} {args : List String}
  {outside : σ}

theorem Outcome.ofResult_exitCode (result : Except CommandError (Option String)) :
    (Outcome.ofResult result).exitCode ≠ 2 := by
  cases result <;> simp [Outcome.ofResult, Outcome.failure]

/-- Arguments that are understood are never complained about. -/
theorem run_exitCode {invocation : Invocation}
    (hparse : CommandLine.parse environment.databaseUrl args = .ok invocation) :
    (run log contents service now environment args outside).1.exitCode ≠ 2 := by
  unfold run
  simp only [hparse]
  split
  · simp [Outcome.failure, Outcome.logging]
  · exact Outcome.ofResult_exitCode _

/-- Where the arguments are not understood, nothing is done. -/
theorem run_notice {notice : Notice}
    (hparse : CommandLine.parse environment.databaseUrl args = .error notice) :
    run log contents service now environment args outside =
      ((Outcome.ofNotice notice).logging { complaints := (log environment.logFilter).complaints },
        none, outside) := by
  simp only [run, hparse]

end Admin

open CommandLine in
/-- A generated token of 16 or more bytes, as the argument of a command that takes a token. It
begins with a dash if the upper six bits of its first byte are 62. If it does not, the command is
asked for with just that token, it is carried out if there is a store, and the program never ends
with the code for a misuse. If it does, the token is taken for options: the program prints the help
of the command, where the second character is an h, or else ends with that code, and does nothing.
Behind `--` each token is taken as such. -/
theorem generated_token_as_argument {σ τ : Type} (random : RandomBytes τ) (n : Nat) (source : τ)
    (hlong : 16 ≤ n) (hlength : (random n source).1.length = n) {name : CommandName}
    {make : String → Command} (hc : TakesToken name make) (url : String)
    (rotation tokenBytes logFilter : Option String) (log : Option String → Admin.Log)
    (contents : Target → Except StoreError Database) (service : Config → Service σ) (now : Instant)
    (outside : σ) :
    let token := (TokenGenerator.secure random n source).1
    let dashed := token.toList.head? = some '-'
    let run := fun args =>
      Admin.run log contents service now ⟨some url, rotation, tokenBytes, logFilter⟩ args outside
    (dashed ↔ ∃ a, (random n source).1.head? = some a ∧ a.toNat / 4 = 62) ∧
    (parse (some url) [name.name, token] = .ok ⟨url, make token⟩ ↔ ¬dashed) ∧
    parse (some url) [name.name, "--", token] = .ok ⟨url, make token⟩ ∧
    (¬dashed → (run [name.name, token]).1.exitCode ≠ 2 ∧
      ∀ target db o h, Target.ofUrl url = .ok target → contents target = .ok db →
        (make token).perform (service (.ofVariables rotation tokenBytes)) now
          ⟨{ data := db, readOnly := target.readOnly }, outside⟩ = (o, h) →
        run [name.name, token] = ((Admin.Outcome.ofResult o).logging (log logFilter),
          some (target, h.connection.committed), h.outside)) ∧
    (dashed → (run [name.name, token]).1.exitCode = (if token.toList[1]? = some 'h' then 0 else 2) ∧
      (run [name.name, token]).2 = (none, outside)) := by
  intro token dashed run
  let environment : Admin.Environment := ⟨some url, rotation, tokenBytes, logFilter⟩
  have htoken : token.toList = Base64Url.encode (random n source).1 := String.toList_ofList
  have hplain : ¬dashed →
      parse environment.databaseUrl [name.name, token] = .ok ⟨url, make token⟩ := parse_plain hc url
  have hdashed : dashed → ∃ notice,
      parse environment.databaseUrl [name.name, token] = .error notice ∧
        (Admin.Outcome.ofNotice notice).exitCode = if token.toList[1]? = some 'h' then 0 else 2 := by
    intro h
    refine parse_dashed hc url h ?_ ?_ <;> rw [htoken]
    · rw [Base64Url.length_encode, hlength]
      omega
    · exact Base64Url.equals_not_mem_encode _
  refine ⟨?_, ⟨fun hok h => ?_, hplain⟩, parse_escaped hc url token,
    fun h => ⟨Admin.run_exitCode (hplain h), ?_⟩, fun h => ?_⟩
  · show token.toList.head? = some '-' ↔ _
    rw [htoken]
    exact Base64Url.head?_encode_eq_dash
  · obtain ⟨notice, herror, -⟩ := hdashed h
    rw [hok] at herror
    cases herror
  · intro target db o host htarget hcontents hperform
    exact Admin.run_apply environment (hplain h) (Admin.locate_eq_ok.mpr ⟨htarget, hcontents⟩)
      hperform
  · obtain ⟨notice, herror, hcode⟩ := hdashed h
    have hrun : run [name.name, token] = _ := Admin.run_notice herror
    rw [hrun]
    exact ⟨hcode, rfl⟩

namespace Sample

/-- The first byte is given, the others are zero. -/
def bytesFrom (first : UInt8) : RandomBytes Unit := fun n s =>
  (first :: List.replicate (n - 1) 0, s)

/-- A store where Alice's token has the given string. -/
def holding (token : String) : Database :=
  { granted.connection.data with tokens := granted.connection.data.tokens.map ({ · with token }) }

end Sample

/-- The token of 16 zero bytes is exchanged. -/
theorem zero_token_as_argument :
    let token := (TokenGenerator.secure (Sample.bytesFrom 0) 16 ()).1
    let ran := Admin.run (fun _ => {}) (fun _ => .ok (Sample.holding token))
      (fun config => { Sample.service with config }) Sample.time
      { databaseUrl := "sqlite:chain.db" } ["exchange", token] Sample.granted.outside
    token = "AAAAAAAAAAAAAAAAAAAAAA" ∧ (Sample.bytesFrom 0 16 ()).1.length = 16 ∧
      CommandLine.parse (some "sqlite:chain.db") ["exchange", token] =
        .ok ⟨"sqlite:chain.db", .exchange token⟩ ∧
      ran.1.exitCode ≠ 2 := by
  have htoken : (TokenGenerator.secure (Sample.bytesFrom 0) 16 ()).1 = "AAAAAAAAAAAAAAAAAAAAAA" := by
    decide
  obtain ⟨-, hparse, -, hruns, -⟩ := generated_token_as_argument (Sample.bytesFrom 0) 16 ()
    (Nat.le_refl 16) rfl .exchange "sqlite:chain.db" none none none (fun _ => {})
    (fun _ => .ok (Sample.holding (TokenGenerator.secure (Sample.bytesFrom 0) 16 ()).1))
    (fun config => { Sample.service with config }) Sample.time Sample.granted.outside
  have hplain : ¬(TokenGenerator.secure (Sample.bytesFrom 0) 16 ()).1.toList.head? = some '-' := by
    rw [htoken]
    decide
  exact ⟨htoken, rfl, hparse.mpr hplain, (hruns hplain).1⟩

/-- A token of 16 bytes that is a row of the store, and that no command takes: it is read as the
option `-A`, of which the program knows nothing. -/
theorem dashed_token_refused :
    let token := (TokenGenerator.secure (Sample.bytesFrom 0xF8) 16 ()).1
    let run := fun args => Admin.run (fun _ => {}) (fun _ => .ok (Sample.holding token))
      (fun config => { Sample.service with config }) Sample.time
      { databaseUrl := "sqlite:chain.db" } args Sample.granted.outside
    (Sample.bytesFrom 0xF8 16 ()).1.length = 16 ∧ token = "-AAAAAAAAAAAAAAAAAAAAA" ∧
      ((Sample.holding token).token? token).isSome ∧
      ∀ command ∈ ["exchange", "revoke-family"], run [command, token] =
        ({ exitCode := 2, err := "error: unexpected argument '-A' found" }, none,
          Sample.granted.outside) := by
  decide +kernel

end RefreshChain
