import Mathlib.Data.List.Basic
import Mathlib.Logic.Function.Basic
import RefreshChain.Config

/-!
# What the environment says

The configuration for every content of the environment, said without the functions that read it.

* `Text.trims_iff`: what trimming leaves has no blank at either end, and all that went was blank.
* `Config.readFlag?_eq_some_iff`, `Config.readSize?_eq_some_iff`: the texts that stand for a truth
  value and for a number. `Config.isNumeral_toString`: a number in decimal is one.
* `environment_settles_config`: the configuration by what its two variables say. It has a permitted
  size, blanks do not matter, and a configuration that is written out reads back as itself.
-/

namespace RefreshChain

/-! ## Trimming -/

namespace Text

/-- `word` is what blank characters in front of it and behind it leave of `cs`. -/
def Trims (cs word : List Char) : Prop :=
  ∃ front back, cs = front ++ word ++ back ∧ (∀ c ∈ front, isBlank c) ∧ (∀ c ∈ back, isBlank c) ∧
    (∀ c ∈ word.head?, ¬isBlank c) ∧ ∀ c ∈ word.getLast?, ¬isBlank c

variable {cs word front back : List Char}

theorem trimStart_append (h : ∀ c ∈ front, isBlank c) : trimStart (front ++ cs) = trimStart cs :=
  List.dropWhile_append_of_pos h

theorem trimStart_of_head? (h : ∀ c ∈ cs.head?, ¬isBlank c) : trimStart cs = cs := by
  cases cs with
  | nil => rfl
  | cons c cs => exact List.dropWhile_cons_of_neg (h c rfl)

theorem head?_trimStart {c : Char} (h : c ∈ (trimStart cs).head?) : ¬isBlank c := by
  have hhead := List.head?_dropWhile_not isBlank cs
  have hc : (cs.dropWhile isBlank).head? = some c := h
  rw [hc] at hhead
  simpa using hhead

/-- Blank characters at the front, and the rest. -/
theorem exists_eq_append_trimStart (cs : List Char) :
    ∃ front, cs = front ++ trimStart cs ∧ ∀ c ∈ front, isBlank c :=
  ⟨cs.takeWhile isBlank, List.takeWhile_append_dropWhile.symm,
    List.all_eq_true.mp List.all_takeWhile⟩

theorem trims_trim (cs : List Char) : Trims cs (trim cs) := by
  obtain ⟨front, hfront, hf⟩ := exists_eq_append_trimStart cs
  obtain ⟨tail, htail, hb⟩ := exists_eq_append_trimStart (trimStart cs).reverse
  have hmiddle : trimStart cs = trim cs ++ tail.reverse := by
    rw [trim, ← List.reverse_append, ← htail, List.reverse_reverse]
  refine ⟨front, tail.reverse, ?_, hf, fun c hc => hb c (List.mem_reverse.mp hc), ?_, ?_⟩
  · rw [List.append_assoc, ← hmiddle]
    exact hfront
  · intro c hc
    -- The word begins where trimming from the front has stopped.
    have hhead : (trimStart cs).head? = some c := by
      rw [hmiddle, List.head?_append, hc]
      rfl
    exact head?_trimStart hhead
  · intro c hc
    rw [trim, List.getLast?_reverse] at hc
    exact head?_trimStart hc

theorem Trims.trim_eq (h : Trims cs word) : trim cs = word := by
  obtain ⟨front, back, rfl, hf, hb, hhead, hlast⟩ := h
  have hback : ∀ c ∈ back.reverse, isBlank c := fun c hc => hb c (List.mem_reverse.mp hc)
  have hword : trimStart word.reverse = word.reverse := by
    refine trimStart_of_head? fun c hc => hlast c ?_
    rwa [List.head?_reverse] at hc
  cases word with
  | nil =>
    -- All is blank, and the first trimming takes it all.
    have hnone : trimStart back = [] := by
      rw [← List.append_nil back, trimStart_append hb]
      rfl
    rw [trim, List.append_assoc, trimStart_append hf, List.nil_append, hnone]
    rfl
  | cons c word =>
    have hstart : trimStart (c :: word ++ back) = c :: word ++ back :=
      trimStart_of_head? fun d hd => hhead d hd
    rw [trim, List.append_assoc, trimStart_append hf, hstart, List.reverse_append,
      trimStart_append hback, hword, List.reverse_reverse]

theorem trims_iff : Trims cs word ↔ trim cs = word :=
  ⟨Trims.trim_eq, fun h => h ▸ trims_trim cs⟩

/-- More blank characters at the ends change nothing. -/
theorem trim_append (hf : ∀ c ∈ front, isBlank c) (hb : ∀ c ∈ back, isBlank c) :
    trim (front ++ cs ++ back) = trim cs := by
  obtain ⟨front', back', hcs, hf', hb', hends⟩ := trims_trim cs
  refine Trims.trim_eq ⟨front ++ front', back' ++ back, ?_, ?_, ?_, hends⟩
  · calc front ++ cs ++ back
        = front ++ (front' ++ trim cs ++ back') ++ back := by rw [← hcs]
      _ = (front ++ front') ++ trim cs ++ (back' ++ back) := by simp only [List.append_assoc]
  · exact List.forall_mem_append.mpr ⟨hf, hf'⟩
  · exact List.forall_mem_append.mpr ⟨hb', hb⟩

end Text

namespace Config

/-! ## Numbers -/

/-- ASCII digits, with at most one plus sign in front, that write the number `n`. -/
def IsNumeral (cs : List Char) (n : Nat) : Prop :=
  ∃ sign digits, cs = sign ++ digits ∧ (sign = [] ∨ sign = ['+']) ∧ digits ≠ [] ∧
    (∀ c ∈ digits, c.isDigit) ∧ Nat.ofDigitChars 10 digits 0 = n

variable {cs : List Char} {n : Nat}

theorem digitsValue?_eq_some_iff {acc : Nat} : digitsValue? cs acc = some n ↔
    (∀ c ∈ cs, c.isDigit) ∧ Nat.ofDigitChars 10 cs acc = n := by
  induction cs generalizing acc with
  | nil => simp [digitsValue?]
  | cons c cs ih =>
    rw [digitsValue?, Nat.ofDigitChars_cons, List.forall_mem_cons]
    split
    · rename_i hc
      simp [ih, hc]
    · rename_i hc
      simp [hc]

theorem dropPlus_of_isDigit (h : ∀ c ∈ cs, c.isDigit) : dropPlus cs = cs := by
  unfold dropPlus
  split
  · have hplus := h '+' List.mem_cons_self
    contradiction
  · rfl

theorem exists_eq_append_dropPlus (cs : List Char) :
    ∃ sign, cs = sign ++ dropPlus cs ∧ (sign = [] ∨ sign = ['+']) := by
  unfold dropPlus
  split
  · exact ⟨['+'], rfl, .inr rfl⟩
  · exact ⟨[], rfl, .inl rfl⟩

theorem isNumeral_iff : IsNumeral cs n ↔
    dropPlus cs ≠ [] ∧ digitsValue? (dropPlus cs) 0 = some n := by
  rw [digitsValue?_eq_some_iff]
  constructor
  · rintro ⟨_, digits, rfl, rfl | rfl, hne, hdigits, hvalue⟩
    · rw [List.nil_append, dropPlus_of_isDigit hdigits]
      exact ⟨hne, hdigits, hvalue⟩
    · exact ⟨hne, hdigits, hvalue⟩
  · rintro ⟨hne, hdigits, hvalue⟩
    obtain ⟨sign, hcs, hsign⟩ := exists_eq_append_dropPlus cs
    exact ⟨sign, dropPlus cs, hcs, hsign, hne, hdigits, hvalue⟩

/-- A number as it is printed. -/
theorem isNumeral_toString (n : Nat) : IsNumeral (toString n).toList n := by
  have hdigits : (toString n).toList = Nat.toDigits 10 n := by
    rw [Nat.toString_eq_ofList_toDigits, String.toList_ofList]
  rw [hdigits]
  exact ⟨[], _, rfl, .inl rfl, Nat.toDigits_ne_nil,
    fun _ => Nat.isDigit_of_mem_toDigits (by decide) (by decide), Nat.ofDigitChars_ten_toDigits⟩

theorem readSize?_eq_some_iff {s : String} :
    readSize? s = some n ↔ IsNumeral (Text.trim s.toList) n ∧ n < UInt64.size := by
  rw [isNumeral_iff, readSize?]
  split
  · rename_i hnone
    simp [hnone]
  · rename_i hsome
    simp only [Option.bind_eq_some_iff, hsome, ne_eq, not_false_eq_true, true_and]
    constructor
    · rintro ⟨m, hm, hn⟩
      split at hn
      · rename_i hlt
        cases hn
        exact ⟨hm, hlt⟩
      · cases hn
    · rintro ⟨hn, hlt⟩
      exact ⟨n, hn, if_pos hlt⟩

example : readSize? " +0018446744073709551615 " = some 18446744073709551615 ∧
    readSize? "18446744073709551616" = none ∧ readSize? "+" = none := by decide

/-! ## Truth values -/

/-- The spellings of a truth value. -/
def spellings : Bool → List String
  | true => ["1", "true", "yes", "on"]
  | false => ["0", "false", "no", "off"]

theorem ofList_mem_spellings {word : List Char} {b : Bool} :
    String.ofList word ∈ spellings b ↔ word ∈ if b then trueWords else falseWords := by
  have hspelled : spellings b = (if b then trueWords else falseWords).map String.ofList := by
    cases b <;> rfl
  rw [hspelled, List.mem_map_of_injective fun _ _ => String.ofList_injective]

/-- No word says yes and no. -/
theorem not_mem_falseWords : ∀ word ∈ trueWords, word ∉ falseWords := by decide

theorem readFlag?_eq_some_iff {s : String} {b : Bool} : readFlag? s = some b ↔
    String.ofList ((Text.trim s.toList).map Char.toLower) ∈ spellings b := by
  rw [ofList_mem_spellings, readFlag?]
  split
  · rename_i htrue
    have hfalse := not_mem_falseWords _ htrue
    cases b <;> simp [htrue, hfalse]
  · rename_i htrue
    cases b <;> simp [htrue]

/-! ## The environment -/

/-- The variable is set, its bytes are UTF-8, and its text is `word` but for blanks around it. -/
def Says (environment : String → Option ByteArray) (name : String) (word : List Char) : Prop :=
  ∃ s : String, environment name = some s.toUTF8 ∧ Text.Trims s.toList word

/-- What is said of the rotation, in any case of the ASCII letters. -/
def SaysRotation (environment : String → Option ByteArray) (b : Bool) : Prop :=
  ∃ word, Says environment rotationVariable word ∧
    String.ofList (word.map Char.toLower) ∈ spellings b

/-- What is said of the size of a token, as a number of 64 bits. -/
def SaysSize (environment : String → Option ByteArray) (n : Nat) : Prop :=
  ∃ word, Says environment tokenBytesVariable word ∧ IsNumeral word n ∧ n < UInt64.size

variable {environment environment' : String → Option ByteArray} {name : String}

theorem text?_eq_some_iff {s : String} :
    text? environment name = some s ↔ environment name = some s.toUTF8 := by
  rw [text?, Option.bind_eq_some_iff]
  constructor
  · rintro ⟨bytes, hbytes, hs⟩
    unfold String.fromUTF8? at hs
    split at hs
    · cases hs
      exact hbytes
    · cases hs
  · intro h
    exact ⟨_, h, dif_pos s.isValidUTF8⟩

/-- What is read of a variable, by a reader to which only the trimmed text matters. -/
theorem bind_text?_eq_some_iff {α : Type} {read : String → Option α} {P : List Char → α → Prop}
    (hread : ∀ s a, read s = some a ↔ P (Text.trim s.toList) a) {a : α} :
    (text? environment name).bind read = some a ↔ ∃ word, Says environment name word ∧ P word a := by
  rw [Option.bind_eq_some_iff]
  constructor
  · rintro ⟨s, hs, ha⟩
    exact ⟨_, ⟨s, text?_eq_some_iff.mp hs, Text.trims_trim _⟩, (hread _ _).mp ha⟩
  · rintro ⟨word, ⟨s, hs, hword⟩, ha⟩
    exact ⟨s, text?_eq_some_iff.mpr hs, (hread _ _).mpr (hword.trim_eq ▸ ha)⟩

theorem readRotation_eq_some_iff {b : Bool} :
    (text? environment rotationVariable).bind readFlag? = some b ↔ SaysRotation environment b :=
  bind_text?_eq_some_iff
    (P := fun word b => String.ofList (word.map Char.toLower) ∈ spellings b)
    fun _ _ => readFlag?_eq_some_iff

theorem readTokenBytes_eq_some_iff {n : Nat} :
    (text? environment tokenBytesVariable).bind readSize? = some n ↔ SaysSize environment n :=
  bind_text?_eq_some_iff (P := fun word n => IsNumeral word n ∧ n < UInt64.size)
    fun _ _ => readSize?_eq_some_iff

theorem rotationEnabled_eq_iff {b : Bool} : (ofEnvironment environment).rotationEnabled = b ↔
    SaysRotation environment b ∨ (¬∃ b', SaysRotation environment b') ∧ b = true := by
  simp only [ofEnvironment, ofVariables, Option.getD_eq_iff, ← readRotation_eq_some_iff,
    ← Option.isSome_iff_exists, Option.not_isSome_iff_eq_none, eq_comm (a := true)]

theorem tokenBytes_eq_iff {n : Nat} : (ofEnvironment environment).tokenBytes = n ↔
    (∃ v, SaysSize environment v ∧ n = min 64 (max 16 v)) ∨
      (¬∃ v, SaysSize environment v) ∧ n = 16 := by
  simp only [ofEnvironment, ofVariables, clampTokenBytes, maxTokenBytes, minTokenBytes,
    ← readTokenBytes_eq_some_iff]
  cases (text? environment tokenBytesVariable).bind readSize? with
  | none => simp [eq_comm]
  | some v => simp [eq_comm]

theorem tokenBytes_bounds (environment : String → Option ByteArray) :
    16 ≤ (ofEnvironment environment).tokenBytes ∧ (ofEnvironment environment).tokenBytes ≤ 64 := by
  obtain ⟨v, -, h⟩ | ⟨-, h⟩ := tokenBytes_eq_iff.mp (Eq.refl (ofEnvironment environment).tokenBytes)
  · omega
  · omega

/-! ### What does not matter -/

theorem rotationEnabled_congr
    (h : ∀ word, Says environment rotationVariable word ↔ Says environment' rotationVariable word) :
    (ofEnvironment environment).rotationEnabled = (ofEnvironment environment').rotationEnabled := by
  have h' := rotationEnabled_eq_iff.mp (Eq.refl (ofEnvironment environment').rotationEnabled)
  refine rotationEnabled_eq_iff.mpr ?_
  simpa only [SaysRotation, h] using h'

theorem tokenBytes_congr (h : ∀ word,
      Says environment tokenBytesVariable word ↔ Says environment' tokenBytesVariable word) :
    (ofEnvironment environment).tokenBytes = (ofEnvironment environment').tokenBytes := by
  have h' := tokenBytes_eq_iff.mp (Eq.refl (ofEnvironment environment').tokenBytes)
  refine tokenBytes_eq_iff.mpr ?_
  simpa only [SaysSize, h] using h'

theorem ofEnvironment_congr
    (h : ∀ name word, Says environment name word ↔ Says environment' name word) :
    ofEnvironment environment = ofEnvironment environment' :=
  congrArg₂ Config.mk (rotationEnabled_congr (h _)) (tokenBytes_congr (h _))

theorem says_congr (h : environment name = environment' name) (word : List Char) :
    Says environment name word ↔ Says environment' name word := by
  rw [Says, Says, h]

theorem says_iff {s : String} {word : List Char} (hset : environment name = some s.toUTF8) :
    Says environment name word ↔ Text.Trims s.toList word := by
  refine ⟨fun ⟨t, ht, hword⟩ => ?_, fun hword => ⟨s, hset, hword⟩⟩
  obtain rfl : s = t := by
    rw [← Option.some.injEq, ← text?_eq_some_iff.mpr hset, text?_eq_some_iff.mpr ht]
  exact hword

/-- Blanks around the text of a variable are not part of what it says. -/
theorem says_update_padded {s front back : String} (hset : environment name = some s.toUTF8)
    (hf : ∀ c ∈ front.toList, Text.isBlank c) (hb : ∀ c ∈ back.toList, Text.isBlank c)
    (other : String) (word : List Char) :
    Says (Function.update environment name (some (front ++ s ++ back).toUTF8)) other word ↔
      Says environment other word := by
  by_cases hother : other = name
  · subst hother
    rw [says_iff (Function.update_self ..), says_iff hset, Text.trims_iff, Text.trims_iff,
      String.toList_append, String.toList_append, Text.trim_append hf hb]
  · exact says_congr (Function.update_of_ne hother ..) word

/-! ### What was written -/

theorem not_isBlank_of_isDigit {c : Char} (h : c.isDigit) : ¬Text.isBlank c := by
  have h' : 48 ≤ c.toNat ∧ c.toNat ≤ 57 := Char.isDigit_iff_toNat.mp h
  simp [Text.isBlank, Text.blanks]
  omega

theorem says_written {s : String} (hset : environment name = some s.toUTF8)
    (h : ∀ c ∈ s.toList, ¬Text.isBlank c) : Says environment name s.toList :=
  (says_iff hset).mpr ⟨[], [], by simp, by simp, by simp,
    fun c hc => h c (List.mem_of_mem_head? hc), fun c hc => h c (List.mem_of_mem_getLast? hc)⟩

theorem saysRotation_toString {b : Bool}
    (hset : environment rotationVariable = some (toString b).toUTF8) : SaysRotation environment b := by
  have hblanks : ((toString b).toList.all fun c => !Text.isBlank c) = true := by
    cases b <;> decide
  refine ⟨(toString b).toList, says_written hset fun c hc => ?_, ?_⟩
  · simpa using List.all_eq_true.mp hblanks c hc
  · cases b <;> decide

theorem saysSize_toString {n : Nat} (hn : n < UInt64.size)
    (hset : environment tokenBytesVariable = some (toString n).toUTF8) : SaysSize environment n := by
  refine ⟨(toString n).toList, says_written hset fun c hc => not_isBlank_of_isDigit ?_,
    isNumeral_toString n, hn⟩
  rw [Nat.toString_eq_ofList_toDigits, String.toList_ofList] at hc
  exact Nat.isDigit_of_mem_toDigits (by decide) (by decide) hc

theorem ofEnvironment_toString {config : Config} (hlow : 16 ≤ config.tokenBytes)
    (hhigh : config.tokenBytes ≤ 64)
    (hrotation : environment rotationVariable = some (toString config.rotationEnabled).toUTF8)
    (htokenBytes : environment tokenBytesVariable = some (toString config.tokenBytes).toUTF8) :
    ofEnvironment environment = config := by
  have hsize : config.tokenBytes < UInt64.size := Nat.lt_of_le_of_lt hhigh (by decide)
  refine congrArg₂ Config.mk (rotationEnabled_eq_iff.mpr (.inl (saysRotation_toString hrotation)))
    (tokenBytes_eq_iff.mpr (.inl ⟨_, saysSize_toString hsize htokenBytes, ?_⟩))
  omega

end Config

/-- The configuration for any environment. Whether families are revoked is what one variable says in
one of eight words, and else they are. The size of a token is the number that the other one says,
moved into the permitted range, and else 16. Each variable matters to its own field alone, blanks
around its text do not matter, and a configuration of a permitted size that is written out reads
back as itself. -/
theorem environment_settles_config (environment : String → Option ByteArray) :
    let config := Config.ofEnvironment environment
    (∀ b, config.rotationEnabled = b ↔ Config.SaysRotation environment b ∨
      (¬∃ b', Config.SaysRotation environment b') ∧ b = true) ∧
    (∀ n, config.tokenBytes = n ↔ (∃ v, Config.SaysSize environment v ∧ n = min 64 (max 16 v)) ∨
      (¬∃ v, Config.SaysSize environment v) ∧ n = 16) ∧
    (16 ≤ config.tokenBytes ∧ config.tokenBytes ≤ 64) ∧
    (∀ other, other Config.rotationVariable = environment Config.rotationVariable →
      (Config.ofEnvironment other).rotationEnabled = config.rotationEnabled) ∧
    (∀ other, other Config.tokenBytesVariable = environment Config.tokenBytesVariable →
      (Config.ofEnvironment other).tokenBytes = config.tokenBytes) ∧
    (∀ name (s front back : String), environment name = some s.toUTF8 →
      (∀ c ∈ front.toList, Text.isBlank c) → (∀ c ∈ back.toList, Text.isBlank c) →
      Config.ofEnvironment (Function.update environment name (some (front ++ s ++ back).toUTF8)) =
        config) ∧
    (∀ written : Config, 16 ≤ written.tokenBytes → written.tokenBytes ≤ 64 →
      environment Config.rotationVariable = some (toString written.rotationEnabled).toUTF8 →
      environment Config.tokenBytesVariable = some (toString written.tokenBytes).toUTF8 →
      config = written) := by
  intro config
  refine ⟨fun _ => Config.rotationEnabled_eq_iff, fun _ => Config.tokenBytes_eq_iff,
    Config.tokenBytes_bounds environment, fun other h => ?_, fun other h => ?_,
    fun name s front back hset hf hb => ?_, fun written => Config.ofEnvironment_toString⟩
  · exact Config.rotationEnabled_congr (Config.says_congr h)
  · exact Config.tokenBytes_congr (Config.says_congr h)
  · exact Config.ofEnvironment_congr (Config.says_update_padded hset hf hb)

namespace Sample

/-- Both variables are set. -/
def environment : String → Option ByteArray := fun name =>
  if name = Config.rotationVariable then some "false".toUTF8
  else if name = Config.tokenBytesVariable then some "32".toUTF8
  else none

end Sample

/-- It is read as it was written. A broken size leaves the rotation as it is, and blanks leave all. -/
theorem written_environment_settles_config :
    let config := Config.ofEnvironment Sample.environment
    config = { rotationEnabled := false, tokenBytes := 32 } ∧
      (Config.ofEnvironment (Function.update Sample.environment Config.tokenBytesVariable
        (some ⟨#[0xFF]⟩))).rotationEnabled = config.rotationEnabled ∧
      Config.ofEnvironment (Function.update Sample.environment Config.tokenBytesVariable
        (some ("\u00a0" ++ "32" ++ "\n").toUTF8)) = config := by
  obtain ⟨-, -, -, hrotation, -, hpadded, hwritten⟩ := environment_settles_config Sample.environment
  refine ⟨hwritten { rotationEnabled := false, tokenBytes := 32 } (by decide) (by decide) ?_ ?_,
    hrotation _ (Function.update_of_ne ?_ ..), hpadded _ _ _ _ ?_ ?_ ?_⟩
  · rfl
  · rfl
  · decide
  · rfl
  · exact List.all_eq_true.mp (by decide)
  · exact List.all_eq_true.mp (by decide)

end RefreshChain
