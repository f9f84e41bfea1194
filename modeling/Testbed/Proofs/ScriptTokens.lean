import Testbed.Proofs.Splitting
import Testbed.Script.Arguments

/-!
# Tokens become arguments

A token is read by itself, so the arguments of tokens in a row are those of each of them. The first
bad token decides. Flags and options keep their order, each among its own kind, and how they were
mixed leaves no trace.
-/

namespace Testbed.Script

open Text

/-! ## One token -/

theorem bare_hyphens (token : String) : bare ("--" ++ token) = token := by
  have pair : ("--" ++ token).toList = '-' :: '-' :: token.toList := by
    rw [String.toList_append]
    rfl
  rw [bare, pair]
  exact String.ofList_toList

theorem bare_of_not_prefix {token : String} (other : ¬ "--".toList <+: token.toList) :
    bare token = token := by
  unfold bare
  split
  · rename_i rest pair
    rw [pair] at other
    exact absurd (List.prefix_append ['-', '-'] rest) other
  · rfl

/-- Without a pair of leading hyphens the token is empty or has no name. -/
def BadToken (token : String) : Prop :=
  bare token = "" ∨ (bare token).toList.head? = some '='

instance (token : String) : Decidable (BadToken token) :=
  inferInstanceAs (Decidable (bare token = "" ∨ (bare token).toList.head? = some '='))

def faultOf (token : String) : TokenFault :=
  if bare token = "" then .empty else .unnamed (bare token)

/-- The name in front of the first equals sign and the value behind it. -/
def assignment? (text : String) : Option (String × String) :=
  (cut? '=' text.toList).map fun (name, value) => (String.ofList name, String.ofList value)

theorem assignment?_eq_some_iff {text name value : String} :
    assignment? text = some (name, value) ↔ text = name ++ "=" ++ value ∧ '=' ∉ name.toList := by
  constructor
  · intro h
    obtain ⟨⟨front, back⟩, cut, pair⟩ := Option.map_eq_some_iff.mp h
    obtain ⟨rfl, rfl⟩ := Prod.mk.inj pair
    refine ⟨String.toList_injective ?_, ?_⟩
    · simpa using eq_append_of_cut? cut
    · simpa using not_mem_of_cut? cut
  · rintro ⟨rfl, clean⟩
    have whole : (name ++ "=" ++ value).toList = name.toList ++ '=' :: value.toList := by simp
    rw [assignment?, whole, cut?_append clean]
    simp

theorem assignment?_eq_none_iff {text : String} : assignment? text = none ↔ '=' ∉ text.toList := by
  rw [assignment?, Option.map_eq_none_iff, cut?_eq_none_iff]

theorem badToken_of_assignment? {token value : String}
    (h : assignment? (bare token) = some ("", value)) : BadToken token := by
  obtain ⟨text, -⟩ := assignment?_eq_some_iff.mp h
  refine .inr ?_
  simp [text]

def understood (token : String) : Argument :=
  match assignment? (bare token) with
  | some (name, value) => .option name value
  | none => .flag (bare token)

theorem ofToken_of_bad {token : String} (bad : BadToken token) :
    Argument.ofToken token = .error (faultOf token) := by
  unfold Argument.ofToken faultOf
  rcases bad with empty | sign
  · simp [empty]
  · have filled : bare token ≠ "" := by
      intro empty
      simp [empty] at sign
    obtain ⟨rest, text⟩ : ∃ rest, (bare token).toList = '=' :: rest :=
      List.head?_eq_some_iff.mp sign
    simp [filled, text, cut?]

theorem ofToken_of_not_bad {token : String} (good : ¬ BadToken token) :
    Argument.ofToken token = .ok (understood token) := by
  have filled : bare token ≠ "" := fun empty => good (.inl empty)
  unfold Argument.ofToken understood
  cases assigned : assignment? (bare token) with
  | none =>
    simp [filled, cut?_of_not_mem (assignment?_eq_none_iff.mp assigned)]
  | some pair =>
    obtain ⟨⟨front, back⟩, cut, rfl⟩ := Option.map_eq_some_iff.mp assigned
    cases front with
    | nil => exact absurd (badToken_of_assignment? assigned) good
    | cons c front => simp [filled, cut]

/-! ## Tokens in a row -/

/-- Arguments behind others of their kind. -/
instance : Append Arguments :=
  ⟨fun args more => ⟨args.flags ++ more.flags, args.options ++ more.options⟩⟩

namespace Arguments

variable {tokens others front back : List String}

theorem append_def (args more : Arguments) :
    args ++ more = ⟨args.flags ++ more.flags, args.options ++ more.options⟩ :=
  rfl

theorem append_assoc (a b c : Arguments) : a ++ b ++ c = a ++ (b ++ c) := by
  simp only [append_def, List.append_assoc]

theorem empty_append (args : Arguments) : ({} : Arguments) ++ args = args :=
  rfl

theorem append_empty (args : Arguments) : args ++ ({} : Arguments) = args := by
  simp [append_def]

theorem add_eq (args : Arguments) (a : Argument) :
    args.add a = args ++ ({} : Arguments).add a := by
  cases a <;> simp [add, flag, option, append_def]

/-- What was read before stays in front. -/
theorem foldlM_add (args : Arguments) (tokens : List String) :
    tokens.foldlM (fun args token => do return args.add (← Argument.ofToken token)) args =
      (ofTokens tokens).map (args ++ ·) := by
  unfold ofTokens
  induction tokens generalizing args with
  | nil => exact congrArg Except.ok (append_empty args).symm
  | cons token tokens ih =>
    rw [List.foldlM_cons, List.foldlM_cons]
    cases Argument.ofToken token with
    | error fault => rfl
    | ok a =>
      -- Both sides go on with the tokens that are left.
      have behind : Except.map (args.add a ++ ·) (ofTokens tokens) =
          Except.map (args ++ ·) (Except.map (({} : Arguments).add a ++ ·) (ofTokens tokens)) := by
        cases ofTokens tokens with
        | error fault => rfl
        | ok rest => exact congrArg Except.ok (by rw [add_eq]; exact append_assoc ..)
      exact (ih (args.add a)).trans (behind.trans (congrArg _ (ih _).symm))

/-- Tokens are read one after the other, and the first that fails decides. -/
theorem ofTokens_cons (token : String) (tokens : List String) :
    ofTokens (token :: tokens) = (do
      let a ← Argument.ofToken token
      let rest ← ofTokens tokens
      return ({} : Arguments).add a ++ rest) := by
  have first : ofTokens (token :: tokens) = (do
      let a ← Argument.ofToken token
      tokens.foldlM (fun args token => do return args.add (← Argument.ofToken token))
        (({} : Arguments).add a)) := by
    rw [ofTokens, List.foldlM_cons]
    cases Argument.ofToken token <;> rfl
  rw [first]
  cases Argument.ofToken token with
  | error fault => rfl
  | ok a =>
    refine (foldlM_add _ tokens).trans ?_
    cases ofTokens tokens <;> rfl

theorem ofTokens_append (front back : List String) :
    ofTokens (front ++ back) = (do
      let args ← ofTokens front
      let more ← ofTokens back
      return args ++ more) := by
  induction front with
  | nil =>
    rw [List.nil_append]
    cases ofTokens back <;> rfl
  | cons token front ih =>
    rw [List.cons_append, ofTokens_cons, ofTokens_cons, ih]
    simp only [bind_assoc, pure_bind, append_assoc]

/-- The tokens without an equals sign, in order. -/
def flagsOf (tokens : List String) : List String :=
  (tokens.map bare).filter fun text => '=' ∉ text.toList

def optionsOf (tokens : List String) : List (String × String) :=
  (tokens.map bare).filterMap assignment?

theorem flagsOf_cons (token : String) (tokens : List String) :
    flagsOf (token :: tokens) = flagsOf [token] ++ flagsOf tokens :=
  List.filter_append [bare token] (tokens.map bare)

theorem optionsOf_cons (token : String) (tokens : List String) :
    optionsOf (token :: tokens) = optionsOf [token] ++ optionsOf tokens :=
  List.filterMap_append (l := [bare token])

/-- A token is a flag or an option, and not both. -/
theorem understood_cases (token : String) :
    (understood token = .flag (bare token) ∧ flagsOf [token] = [bare token] ∧
      optionsOf [token] = []) ∨
    ∃ name value, understood token = .option name value ∧ flagsOf [token] = [] ∧
      optionsOf [token] = [(name, value)] := by
  unfold understood
  cases assigned : assignment? (bare token) with
  | none =>
    have plain := assignment?_eq_none_iff.mp assigned
    exact .inl ⟨rfl, by simp [flagsOf, plain], by simp [optionsOf, assigned]⟩
  | some pair =>
    obtain ⟨name, value⟩ := pair
    obtain ⟨text, -⟩ := assignment?_eq_some_iff.mp assigned
    exact .inr ⟨name, value, rfl, by simp [flagsOf, text], by simp [optionsOf, assigned]⟩

theorem add_understood (token : String) :
    ({} : Arguments).add (understood token) = ⟨flagsOf [token], optionsOf [token]⟩ := by
  rcases understood_cases token with ⟨meant, flags, options⟩ | ⟨name, value, meant, flags, options⟩
  · rw [meant, flags, options]
    rfl
  · rw [meant, flags, options]
    rfl

/-- If no token is bad, all are read. -/
theorem ofTokens_of_good (good : ∀ token ∈ tokens, ¬ BadToken token) :
    ofTokens tokens = .ok ⟨flagsOf tokens, optionsOf tokens⟩ := by
  induction tokens with
  | nil => rfl
  | cons token tokens ih =>
    obtain ⟨first, rest⟩ := List.forall_mem_cons.mp good
    rw [ofTokens_cons, ofToken_of_not_bad first, ih rest, flagsOf_cons, optionsOf_cons]
    exact congrArg (fun args => Except.ok (args ++ _)) (add_understood token)

/-- What comes behind the first bad token is not looked at. -/
theorem ofTokens_of_bad {token : String} (good : ∀ t ∈ front, ¬ BadToken t)
    (bad : BadToken token) : ofTokens (front ++ token :: back) = .error (faultOf token) := by
  rw [ofTokens_append, ofTokens_of_good good, ofTokens_cons, ofToken_of_bad bad]
  rfl

/-- Among tokens there is a first bad one, or none at all. -/
theorem exists_first_bad (tokens : List String) : (∀ token ∈ tokens, ¬ BadToken token) ∨
    ∃ front token back, tokens = front ++ token :: back ∧ (∀ t ∈ front, ¬ BadToken t) ∧
      BadToken token := by
  induction tokens with
  | nil => exact .inl nofun
  | cons token tokens ih =>
    by_cases bad : BadToken token
    · exact .inr ⟨[], token, tokens, rfl, nofun, bad⟩
    rcases ih with good | ⟨front, first, back, rfl, good, worse⟩
    · exact .inl (List.forall_mem_cons.mpr ⟨bad, good⟩)
    · exact .inr ⟨token :: front, first, back, rfl, List.forall_mem_cons.mpr ⟨bad, good⟩, worse⟩

theorem ofTokens_eq_error_iff {fault : TokenFault} : ofTokens tokens = .error fault ↔
    ∃ front token back, tokens = front ++ token :: back ∧ (∀ t ∈ front, ¬ BadToken t) ∧
      BadToken token ∧ fault = faultOf token := by
  constructor
  · intro failed
    rcases exists_first_bad tokens with good | ⟨front, token, back, rfl, good, bad⟩
    · cases (ofTokens_of_good good).symm.trans failed
    · rw [ofTokens_of_bad good bad] at failed
      exact ⟨front, token, back, rfl, good, bad, (Except.error.inj failed).symm⟩
  · rintro ⟨front, token, back, rfl, good, bad, rfl⟩
    exact ofTokens_of_bad good bad

theorem ofTokens_fails_iff :
    (∃ fault, ofTokens tokens = .error fault) ↔ ∃ token ∈ tokens, BadToken token := by
  constructor
  · rintro ⟨fault, failed⟩
    obtain ⟨front, token, back, rfl, -, bad, -⟩ := ofTokens_eq_error_iff.mp failed
    exact ⟨token, by simp, bad⟩
  · rintro ⟨token, mem, bad⟩
    rcases exists_first_bad tokens with good | ⟨front, first, back, rfl, good, worse⟩
    · exact absurd bad (good token mem)
    · exact ⟨_, ofTokens_of_bad good worse⟩

theorem mem_flagsOf_iff {text : String} :
    text ∈ flagsOf tokens ↔ ∃ token ∈ tokens, bare token = text ∧ '=' ∉ text.toList := by
  simp only [flagsOf, List.mem_filter, List.mem_map, decide_eq_true_eq]
  constructor
  · rintro ⟨⟨token, mem, rfl⟩, plain⟩
    exact ⟨token, mem, rfl, plain⟩
  · rintro ⟨token, mem, rfl, plain⟩
    exact ⟨⟨token, mem, rfl⟩, plain⟩

theorem mem_optionsOf_iff {pair : String × String} :
    pair ∈ optionsOf tokens ↔ ∃ token ∈ tokens, assignment? (bare token) = some pair := by
  simp only [optionsOf, List.mem_filterMap, List.mem_map]
  constructor
  · rintro ⟨_, ⟨token, mem, rfl⟩, assigned⟩
    exact ⟨token, mem, assigned⟩
  · rintro ⟨token, mem, assigned⟩
    exact ⟨_, ⟨token, mem, rfl⟩, assigned⟩

/-- Among the flags and options it can be seen whether a token was bad, but not which one. -/
theorem badToken_iff_seen : (∃ token ∈ tokens, BadToken token) ↔
    "" ∈ flagsOf tokens ∨ ∃ value, ("", value) ∈ optionsOf tokens := by
  simp only [mem_flagsOf_iff, mem_optionsOf_iff]
  constructor
  · rintro ⟨token, mem, empty | sign⟩
    · exact .inl ⟨token, mem, empty, List.not_mem_nil⟩
    · obtain ⟨value, text⟩ := List.head?_eq_some_iff.mp sign
      refine .inr ⟨String.ofList value, token, mem, assignment?_eq_some_iff.mpr ⟨?_, nofun⟩⟩
      exact String.toList_injective (by simp [text])
  · rintro (⟨token, mem, empty, -⟩ | ⟨value, token, mem, assigned⟩)
    · exact ⟨token, mem, .inl empty⟩
    · exact ⟨token, mem, badToken_of_assignment? assigned⟩

/-- However the flags and the options are mixed, the same is read. -/
theorem toOption_ofTokens_congr (flags : flagsOf tokens = flagsOf others)
    (options : optionsOf tokens = optionsOf others) :
    (ofTokens tokens).toOption = (ofTokens others).toOption := by
  have seen : (∃ token ∈ tokens, BadToken token) ↔ ∃ token ∈ others, BadToken token := by
    rw [badToken_iff_seen, badToken_iff_seen, flags, options]
  by_cases bad : ∃ token ∈ tokens, BadToken token
  · obtain ⟨fault, failed⟩ := ofTokens_fails_iff.mpr bad
    obtain ⟨fault', failed'⟩ := ofTokens_fails_iff.mpr (seen.mp bad)
    rw [failed, failed']
    rfl
  · have good (list : List String) (none : ¬ ∃ token ∈ list, BadToken token) :
        ∀ token ∈ list, ¬ BadToken token :=
      fun token mem worse => none ⟨token, mem, worse⟩
    rw [ofTokens_of_good (good _ bad), ofTokens_of_good (good _ (mt seen.mpr bad)), flags, options]

/-- Every token is a flag or an option. -/
theorem length_flagsOf_add (tokens : List String) :
    (flagsOf tokens).length + (optionsOf tokens).length = tokens.length := by
  induction tokens with
  | nil => rfl
  | cons token tokens ih =>
    rw [flagsOf_cons, optionsOf_cons, List.length_append, List.length_append, List.length_cons]
    rcases understood_cases token with ⟨-, flags, options⟩ | ⟨name, value, -, flags, options⟩
    · rw [flags, options, ← ih, List.length_singleton, List.length_nil]
      omega
    · rw [flags, options, ← ih, List.length_singleton, List.length_nil]
      omega

/-- A name as it is written on a command line. -/
theorem ofList_substitute (name : String) : String.ofList (substitute '_' '-' name.toList) =
    name.map fun c => if c = '_' then '-' else c :=
  String.toList_injective (by simp [substitute])

/-- There is one word for every flag, and there are two for every option. -/
theorem length_toWords (args : Arguments) :
    args.toWords.length = args.flags.length + 2 * args.options.length := by
  have pairs {words : String × String → List String} (two : ∀ option, (words option).length = 2)
      (options : List (String × String)) :
      (options.flatMap words).length = 2 * options.length := by
    induction options with
    | nil => rfl
    | cons option options ih =>
      rw [List.flatMap_cons, List.length_append, ih, two, List.length_cons]
      omega
  rw [toWords, List.length_append, List.length_map, pairs fun _ => rfl]

/-- One pair of leading hyphens does not count. Reading fails with what is wrong with the first
token that is then empty or without a name. Otherwise the words are those of the flags, in order,
and then those of the options, in order: nothing is lost, and nothing is there twice. Tokens behind
others add their arguments behind those of the others, and how flags and options are mixed leaves
no trace. -/
theorem words_of_tokens :
    (∀ token, bare ("--" ++ token) = token) ∧
    (∀ token, ¬ "--".toList <+: token.toList → bare token = token) ∧
    (∀ text name value, assignment? text = some (name, value) ↔
      text = name ++ "=" ++ value ∧ '=' ∉ name.toList) ∧
    (∀ tokens fault, ofTokens tokens = .error fault ↔
      ∃ front token back, tokens = front ++ token :: back ∧ (∀ t ∈ front, ¬ BadToken t) ∧
        BadToken token ∧ fault = if bare token = "" then .empty else .unnamed (bare token)) ∧
    (∀ tokens, (∀ token ∈ tokens, ¬ BadToken token) → ∃ args, ofTokens tokens = .ok args ∧
      args.toWords = (flagsOf tokens).map ("--" ++ ·) ++
        (optionsOf tokens).flatMap (fun (name, value) =>
          ["--" ++ name.map fun c => if c = '_' then '-' else c, value]) ∧
      args.toWords.length = (flagsOf tokens).length + 2 * (optionsOf tokens).length ∧
      (flagsOf tokens).length + (optionsOf tokens).length = tokens.length) ∧
    (∀ front back, ofTokens (front ++ back) = do
      let args ← ofTokens front
      let more ← ofTokens back
      return ⟨args.flags ++ more.flags, args.options ++ more.options⟩) ∧
    ∀ tokens others, flagsOf tokens = flagsOf others → optionsOf tokens = optionsOf others →
      (ofTokens tokens).toOption.map toWords = (ofTokens others).toOption.map toWords := by
  refine ⟨bare_hyphens, fun _ => bare_of_not_prefix, fun _ _ _ => assignment?_eq_some_iff,
    fun _ _ => ofTokens_eq_error_iff, fun tokens good => ?_, ofTokens_append,
    fun _ _ flags options => congrArg _ (toOption_ofTokens_congr flags options)⟩
  refine ⟨_, ofTokens_of_good good, ?_, length_toWords _, length_flagsOf_add tokens⟩
  simp only [toWords, ofList_substitute]

/-- Hyphens and equals signs further on belong to the flag or to the value. -/
theorem words_of_tokens_mixed :
    let tokens := ["a_b", "--x_y=1=2_3", "----z", "k=--v", "---"]
    (∀ token ∈ tokens, ¬ BadToken token) ∧ ∃ args, ofTokens tokens = .ok args ∧
      args.toWords = ["--a_b", "----z", "---", "--x-y", "1=2_3", "--k", "--v"] := by
  intro tokens
  have good : ∀ token ∈ tokens, ¬ BadToken token := by decide +kernel
  obtain ⟨-, -, -, -, read, -⟩ := words_of_tokens
  obtain ⟨args, ok, words, -⟩ := read tokens good
  exact ⟨good, args, ok, words.trans (by decide +kernel)⟩

end Arguments

end Testbed.Script
