import WebPilot.CommandLine.Basic
import Mathlib.Data.List.Basic
import Mathlib.Data.List.TakeWhile

/-!
# The command behind the options

What an option comes to hangs on the word behind it only if it takes that word as its value
(`takeOption_cases`).  So words that are read as options alone (`Sets`) are read in the same way
when a command stands behind them, and **the first word that is no option begins the command, which
takes everything from there on as it stands** (`Sets.act`, `parse_append`).

All words are classified first, also those of the command.  That is harmless but for a word that
attaches a value to no name (`isNameless`), which could be any of the long options: such a word is
refused, unless it stands behind a separator (`classifyAll_refuses_iff`).

What is given to the server is the command without its separators, those of the server among them
(`second_separator_dropped`).  **So the server is started with the very words of the command exactly
if none of them is a separator and, where no separator stands in front of the command, none is
nameless** (`command_reaches_server`).
-/

namespace WebPilot.CommandLine

set_option autoImplicit false

/-! ## Options and their values -/

section Taking

variable {flag : Flag} {isShort : Bool} {attached : Option (List Char)} {next : Option Word}
  {taken : Taken}

theorem takePlain_cases (took : takePlain flag next = .ok taken) :
    (taken.used = 0 ∧ ∀ other, takePlain flag other = .ok taken) ∨
      (taken.used = 1 ∧ ∃ value, next = some (.operand value)) := by
  unfold takePlain at took ⊢
  by_cases valued : flag.takesValue = true
  · rw [if_pos valued] at took
    cases next with
    | none => cases took
    | some word =>
        cases word with
        | operand value =>
            cases took
            exact .inr ⟨rfl, value, rfl⟩
        | option | unknown | separator => cases took
  · rw [if_neg valued] at took
    cases took
    exact .inl ⟨rfl, fun _ => if_neg valued⟩

theorem takeLetters_cases {letters : List Char} (took : takeLetters flag next letters = .ok taken) :
    (taken.used = 0 ∧ ∀ other, takeLetters flag other letters = .ok taken) ∨
      (taken.used = 1 ∧ ∃ value, next = some (.operand value)) := by
  induction letters generalizing flag taken with
  | nil => exact takePlain_cases took
  | cons c rest ih =>
      cases valued : flag.takesValue with
      | true =>
          rw [takeLetters, if_pos valued] at took
          cases took
          exact .inl ⟨rfl, fun other => by rw [takeLetters, if_pos valued]⟩
      | false =>
          have alone : ¬ flag.takesValue = true := ne_true_of_eq_false valued
          rw [takeLetters, if_neg alone] at took
          cases found : spellings.lookup (String.ofList ['-', c]) with
          | none =>
              rw [found] at took
              cases took
          | some other =>
              simp only [found] at took
              cases later : takeLetters other next rest with
              | error misuse =>
                  rw [later] at took
                  cases took
              | ok more =>
                  rw [later] at took
                  cases took
                  rcases ih later with ⟨unused, same⟩ | used
                  · refine .inl ⟨unused, fun next' => ?_⟩
                    rw [takeLetters, if_neg alone]
                    simp only [found, same next', Except.map]
                  · exact .inr used

/-- **An option either takes the next word, an operand, or does not look at it.** -/
theorem takeOption_cases (took : takeOption flag isShort attached next = .ok taken) :
    (taken.used = 0 ∧ ∀ other, takeOption flag isShort attached other = .ok taken) ∨
      (taken.used = 1 ∧ ∃ value, next = some (.operand value)) := by
  cases attached with
  | none => exact takePlain_cases took
  | some letters =>
      simp only [takeOption] at took ⊢
      by_cases valued : flag.takesValue = true
      · rw [if_pos valued] at took
        cases took
        exact .inl ⟨rfl, fun _ => if_pos valued⟩
      · rw [if_neg valued] at took
        simp only [if_neg valued]
        by_cases grouped : (isShort && !letters.isEmpty) = true
        · rw [if_pos grouped] at took
          simp only [if_pos grouped]
          exact takeLetters_cases took
        · rw [if_neg grouped] at took
          cases took

end Taking

/-! ## Lists of options -/

/-- Words that are options, some with the word behind them as their value; they turn the arguments
read so far into others. -/
inductive Sets : Arguments → List (Word × String) → Arguments → Prop
  | done (args : Arguments) : Sets args [] args
  | alone {args middle after : Arguments} {flag : Flag} {isShort : Bool}
      {attached : Option (List Char)} {text : String} {settings : List Setting}
      {rest : List (Word × String)}
      (took : ∀ next, takeOption flag isShort attached next = .ok ⟨settings, 0⟩)
      (applied : applySettings args settings = .ok middle) (later : Sets middle rest after) :
      Sets args ((.option flag isShort attached, text) :: rest) after
  | valued {args middle after : Arguments} {flag : Flag} {isShort : Bool}
      {attached : Option (List Char)} {text value valueText : String} {settings : List Setting}
      {rest : List (Word × String)}
      (took : takeOption flag isShort attached (some (.operand value)) = .ok ⟨settings, 1⟩)
      (applied : applySettings args settings = .ok middle) (later : Sets middle rest after) :
      Sets args ((.option flag isShort attached, text) :: (.operand value, valueText) :: rest)
        after

/-- The words begin with one that is no option, if there are any. -/
def IsCommand (words : List (Word × String)) : Prop :=
  ∀ first ∈ words.head?, first.1 = .separator ∨ ∃ text, first.1 = .operand text

/-- A command is taken as it stands. -/
theorem act_command {command : List (Word × String)} (isCommand : IsCommand command)
    (args : Arguments) (fuel : Nat) :
    act args [] (fuel + 1) command = .run { args with backend := command.map (·.2) } := by
  cases command with
  | nil => rfl
  | cons first rest =>
      obtain ⟨word, text⟩ := first
      obtain rfl | ⟨value, rfl⟩ : word = .separator ∨ ∃ value, word = .operand value :=
        isCommand _ rfl
      · rfl
      · rfl

namespace Sets

variable {args after : Arguments} {pairs : List (Word × String)}

/-- There is no separator among options and their values. -/
theorem free (sets : Sets args pairs after) : .separator ∉ pairs.map (·.1) := by
  induction sets with
  | done args => exact List.not_mem_nil
  | alone took applied later ih => simpa using ih
  | valued took applied later ih => simpa using ih

/-- **Behind options the command is taken as it stands.** -/
theorem act (sets : Sets args pairs after) {command : List (Word × String)}
    (isCommand : IsCommand command) {fuel : Nat} (enough : pairs.length < fuel) :
    act args [] fuel (pairs ++ command) =
      .run { after with backend := command.map (·.2) } := by
  induction sets generalizing fuel with
  | done args =>
      obtain ⟨fuel, rfl⟩ := Nat.exists_eq_succ_of_ne_zero (Nat.ne_of_gt enough)
      exact act_command isCommand args fuel
  | alone took applied later ih =>
      obtain ⟨fuel, rfl⟩ := Nat.exists_eq_succ_of_ne_zero (Nat.ne_of_gt (Nat.zero_lt_of_lt enough))
      rw [List.cons_append, CommandLine.act]
      simp only [took, applied]
      exact ih (Nat.lt_of_succ_lt_succ enough)
  | valued took applied later ih =>
      obtain ⟨fuel, rfl⟩ := Nat.exists_eq_succ_of_ne_zero (Nat.ne_of_gt (Nat.zero_lt_of_lt enough))
      rw [List.cons_append, List.cons_append, CommandLine.act]
      simp only [List.head?_cons, Option.map_some, took, applied]
      exact ih (Nat.lt_of_succ_lt (Nat.lt_of_succ_lt_succ enough))

end Sets

/-- What ends the reading of settings is no reading of a whole line. -/
theorem applySettings_ne_run {args : Arguments} {settings : List Setting} {parsed : Parsed}
    (ends : applySettings args settings = .error parsed) (read : Arguments) :
    parsed ≠ .run read := by
  induction settings generalizing args with
  | nil => cases ends
  | cons setting rest ih =>
      obtain ⟨flag, given⟩ := setting
      cases flag with
      | help | version =>
          cases ends
          exact nofun
      | file | envFile | debug | ledger | targetOrigin | chrome | noReplay => exact ih ends
      | maxIterations =>
          simp only [applySettings] at ends
          split at ends
          · split at ends
            · exact ih ends
            · cases ends
              exact nofun
          · exact ih ends
          · exact ih ends

/-- **What is read without a command is a list of options.** -/
theorem sets_of_act {args settings : Arguments} {strays : List String}
    {pairs : List (Word × String)} {fuel : Nat} (ran : act args strays fuel pairs = .run settings)
    (bare : settings.backend = []) (enough : pairs.length < fuel) :
    strays = [] ∧ ∃ after, Sets args pairs after ∧ settings = { after with backend := [] } := by
  induction fuel generalizing args strays pairs with
  | zero => exact absurd enough (Nat.not_lt_zero _)
  | succ fuel ih =>
      have command_bare (command : List (Word × String))
          (ran : (if strays.isEmpty then Parsed.run { args with backend := command.map (·.2) }
            else .misuse (.unrecognized strays)) = .run settings) :
          strays = [] ∧ command = [] ∧ settings = { args with backend := [] } := by
        by_cases known : strays.isEmpty = true
        · rw [if_pos known] at ran
          cases ran
          obtain rfl : command = [] := List.map_eq_nil_iff.mp bare
          exact ⟨List.isEmpty_iff.mp known, rfl, rfl⟩
        · rw [if_neg known] at ran
          cases ran
      cases pairs with
      | nil =>
          obtain ⟨known, _, read⟩ := command_bare [] ran
          exact ⟨known, args, .done args, read⟩
      | cons first rest =>
          obtain ⟨word, text⟩ := first
          have fewer : rest.length < fuel := Nat.lt_of_succ_lt_succ enough
          cases word with
          | separator | operand value =>
              obtain ⟨_, impossible, _⟩ := command_bare _ ran
              cases impossible
          | unknown word =>
              -- A word that was not understood is never forgotten.
              obtain ⟨known, _⟩ := ih ran fewer
              exact absurd known (by simp)
          | option flag isShort attached =>
              simp only [act] at ran
              cases took : takeOption flag isShort attached (rest.head?.map (·.1)) with
              | error misuse =>
                  rw [took] at ran
                  cases ran
              | ok taken =>
                  simp only [took] at ran
                  obtain ⟨set, used⟩ := taken
                  cases applied : applySettings args set with
                  | error parsed =>
                      simp only [applied] at ran
                      exact absurd ran (applySettings_ne_run applied settings)
                  | ok middle =>
                      simp only [applied] at ran
                      rcases takeOption_cases took with ⟨rfl, same⟩ | ⟨rfl, value, next⟩
                      · obtain ⟨known, after, sets, read⟩ := ih ran fewer
                        exact ⟨known, after, .alone same applied sets, read⟩
                      · cases rest with
                        | nil => cases next
                        | cons second rest =>
                            obtain ⟨word, valueText⟩ := second
                            obtain rfl : word = .operand value := Option.some.inj next
                            obtain ⟨known, after, sets, read⟩ :=
                              ih ran (Nat.lt_of_succ_lt fewer)
                            exact ⟨known, after, .valued took applied sets, read⟩

/-! ## Words that could be any option -/

/-- A word that attaches a value to no name. -/
def isNameless (text : String) : Bool :=
  Text.startsWith text "--="

/-- The spellings of the long options. -/
def longSpellings : List String :=
  (spellings.map (·.1)).filter (Text.startsWith · "--")

/-- The first nameless word in front of the separators. -/
def nameless? (texts : List String) : Option String :=
  (texts.takeWhile (· ≠ "--")).find? isNameless

/-- If different members have different keys, no more than one has a given key. -/
theorem length_filter_le_one {α β : Type} {members : List α} {key : α → β} {p : α → Bool} {b : β}
    (distinct : (members.map key).Nodup) (keyed : ∀ a ∈ members, p a = true → key a = b) :
    (members.filter p).length ≤ 1 := by
  have kept : ((members.filter p).map key).Nodup := distinct.sublist (List.filter_sublist.map key)
  have same : (members.filter p).map key = List.replicate (members.filter p).length b := by
    rw [← List.map_const', List.map_inj_left]
    intro a member
    exact keyed a (List.mem_of_mem_filter member) (List.mem_filter.mp member).2
  rw [same] at kept
  exact List.nodup_replicate.mp kept

/-- The spellings differ in their first three characters. -/
theorem nodup_spellings : (spellings.map fun s => s.1.toList.take 3).Nodup := by
  decide

theorem splitAtSign_fst (word : List Char) :
    (splitAtSign word).1 = word.takeWhile (· ≠ '=') := by
  simp only [splitAtSign]
  split <;> rfl

/-- A word has no more than one reading if there is a letter behind its two dashes. -/
theorem length_readings_le_one {word : List Char}
    (named : ∀ rest, word = '-' :: '-' :: rest → ∃ c letters, rest = c :: letters ∧ c ≠ '=') :
    (readings word).length ≤ 1 := by
  unfold readings
  split
  next rest =>
    obtain ⟨c, letters, rfl, other⟩ := named rest rfl
    rw [List.length_map]
    refine length_filter_le_one (b := ['-', '-', c]) nodup_spellings fun s _ shortened => ?_
    obtain ⟨tail, whole⟩ := List.isPrefixOf_iff_prefix.mp shortened
    rw [← whole]
    simp [splitAtSign_fst, other]
  next =>
    rw [List.length_map]
    refine length_filter_le_one (b := (word.take 2).take 3) nodup_spellings fun s _ same => ?_
    rw [of_decide_eq_true same]

/-- **A word is understood unless it is nameless.** -/
theorem exists_classify {text : String} (other : text ≠ "--") (named : isNameless text = false) :
    ∃ word, classify text = .ok word := by
  have few : (readings text.toList).length ≤ 1 := by
    refine length_readings_le_one fun rest dashes => ?_
    cases rest with
    | nil => exact absurd (String.toList_injective dashes) other
    | cons c letters =>
        refine ⟨c, letters, rfl, ?_⟩
        rintro rfl
        simp [isNameless, Text.startsWith, dashes] at named
  have reads : readings text.toList = [] ∨ ∃ first, readings text.toList = [first] := by
    cases read : readings text.toList with
    | nil => exact .inl rfl
    | cons first others =>
        obtain rfl : others = [] := by simpa [read] using few
        exact .inr ⟨first, rfl⟩
  rw [classify]
  by_cases dash : text.toList.head? = some '-'
  case neg => exact ⟨_, if_pos dash⟩
  rw [if_neg (not_not.mpr dash)]
  cases spelled : spellings.lookup text with
  | some flag => exact ⟨_, rfl⟩
  | none =>
      by_cases single : text.toList.length = 1
      · exact ⟨_, if_pos single⟩
      · dsimp only
        rw [if_neg single]
        split
        next flag attached named given => exact ⟨_, rfl⟩
        next =>
          rcases reads with read | ⟨first, read⟩
          · rw [read]
            by_cases value : (isNegativeNumber text.toList || text.toList.contains ' ') = true
            · exact ⟨_, if_pos value⟩
            · exact ⟨_, if_neg value⟩
          · rw [read]
            exact ⟨_, rfl⟩

/-- **A nameless word could be any long option.** -/
theorem classify_nameless {text : String} (nameless : isNameless text = true) :
    classify text = .error (.ambiguous text longSpellings) := by
  obtain ⟨value, whole⟩ := List.isPrefixOf_iff_prefix.mp nameless
  have word : text.toList = '-' :: '-' :: '=' :: value := whole.symm
  have unspelled : spellings.lookup text = none := by
    rw [List.lookup_eq_none_iff]
    intro s member
    rw [bne_iff_ne]
    rintro rfl
    have signless : ∀ s ∈ spellings, '=' ∉ s.1.toList := by decide
    exact signless s member (by simp [word])
  have cut : splitAtSign ('-' :: '-' :: '=' :: value) = (['-', '-'], some value) := by
    simp [splitAtSign]
  have unnamed : spellings.lookup (String.ofList ['-', '-']) = none := by decide
  have read : (readings ('-' :: '-' :: '=' :: value)).map (·.1) = longSpellings := by
    simp only [readings, cut, List.map_map, longSpellings, List.filter_map]
    rfl
  have several : ∃ first second others,
      readings ('-' :: '-' :: '=' :: value) = first :: second :: others := by
    have ten : longSpellings.length = 10 := by decide
    rw [← read, List.length_map] at ten
    match shape : readings ('-' :: '-' :: '=' :: value) with
    | [] | [_] =>
        rw [shape] at ten
        cases ten
    | first :: second :: others => exact ⟨first, second, others, rfl⟩
  obtain ⟨first, second, others, shape⟩ := several
  rw [shape] at read
  simp only [classify, word, unspelled, cut, unnamed, shape, read]
  simp

/-! ## Classifying a line of words -/

/-- A word that is no separator is classified by itself. -/
theorem classifyAll_cons {text : String} (other : text ≠ "--") (rest : List String) :
    classifyAll (text :: rest) =
      (classify text).bind fun word => (classifyAll rest).map (word :: ·) := by
  rw [classifyAll, if_neg other]
  cases classify text with
  | error misuse => rfl
  | ok word => cases classifyAll rest <;> rfl

/-- How a line of words that begins with one that is no separator comes to be classified. -/
theorem classifyAll_cons_ok {text : String} {rest : List String} {words : List Word}
    (other : text ≠ "--") (classified : classifyAll (text :: rest) = .ok words) :
    ∃ word others, classify text = .ok word ∧ classifyAll rest = .ok others ∧
      words = word :: others := by
  rw [classifyAll_cons other] at classified
  cases found : classify text with
  | error misuse => rw [found] at classified; cases classified
  | ok word =>
      cases later : classifyAll rest with
      | error misuse => rw [found, later] at classified; cases classified
      | ok others =>
          rw [found, later] at classified
          cases classified
          exact ⟨word, others, rfl, rfl, rfl⟩

theorem length_classifyAll {texts : List String} {words : List Word}
    (classified : classifyAll texts = .ok words) : words.length = texts.length := by
  induction texts generalizing words with
  | nil =>
      cases classified
      rfl
  | cons text rest ih =>
      by_cases separates : text = "--"
      · rw [classifyAll, if_pos separates] at classified
        cases classified
        rw [List.length_cons, List.length_map, List.length_cons]
      · obtain ⟨word, others, _, later, rfl⟩ := classifyAll_cons_ok separates classified
        rw [List.length_cons, List.length_cons, ih later]

/-- Words without a separator are classified apart from what stands behind them. -/
theorem classifyAll_append {texts : List String} {words : List Word}
    (classified : classifyAll texts = .ok words) (free : .separator ∉ words) (more : List String) :
    classifyAll (texts ++ more) = (classifyAll more).map (words ++ ·) := by
  induction texts generalizing words with
  | nil =>
      cases classified
      cases found : classifyAll more <;> simp [found, Except.map]
  | cons text rest ih =>
      by_cases separates : text = "--"
      · rw [classifyAll, if_pos separates] at classified
        cases classified
        exact absurd List.mem_cons_self free
      · obtain ⟨word, others, found, later, rfl⟩ := classifyAll_cons_ok separates classified
        have before := ih later fun member => free (List.mem_cons_of_mem _ member)
        rw [List.cons_append, classifyAll_cons separates, found, before]
        cases classifyAll more <;> rfl

/-- **A line of words is refused exactly if there is a nameless word in front of its separators**,
and then for the first of these. -/
theorem classifyAll_refuses_iff {texts : List String} {misuse : Misuse} :
    classifyAll texts = .error misuse ↔
      ∃ text ∈ nameless? texts, misuse = .ambiguous text longSpellings := by
  induction texts with
  | nil => simp [classifyAll, nameless?]
  | cons text rest ih =>
      unfold classifyAll nameless?
      by_cases separates : text = "--"
      · simp [separates]
      · rw [if_neg separates, List.takeWhile_cons, if_pos (by simpa using separates)]
        cases nameless : isNameless text with
        | true =>
            simp only [classify_nameless nameless, List.find?_cons_of_pos nameless]
            simp [eq_comm]
        | false =>
            obtain ⟨word, found⟩ := exists_classify separates nameless
            have passed : ¬ isNameless text = true := by simp [nameless]
            rw [List.find?_cons_of_neg passed]
            simp only [found]
            unfold nameless? at ih
            rw [← ih]
            cases classifyAll rest <;> simp

/-! ## A line of options and a command -/

section Lines

variable {options command : List String} {settings : Arguments}
  (valid : parse options = .run settings) (bare : settings.backend = [])

include valid bare

/-- A line that is read without a command is a list of options. -/
theorem sets_of_parse :
    ∃ words after, classifyAll options = .ok words ∧ .separator ∉ words ∧
      Sets {} (words.zip options) after ∧ settings = { after with backend := [] } := by
  rw [parse] at valid
  cases classified : classifyAll options with
  | error misuse => rw [classified] at valid; cases valid
  | ok words =>
      rw [classified] at valid
      have same := length_classifyAll classified
      have enough : (words.zip options).length < options.length + 1 := by
        rw [List.length_zip]
        omega
      obtain ⟨_, after, sets, read⟩ := sets_of_act valid bare enough
      have free := sets.free
      rw [← List.unzip_fst, List.unzip_zip_left (Nat.le_of_eq same)] at free
      exact ⟨words, after, rfl, free, sets, read⟩

/-- **A command behind options is taken as it stands.** -/
theorem parse_append {words : List Word} (classified : classifyAll command = .ok words)
    (isCommand : IsCommand (words.zip command)) :
    parse (options ++ command) = .run { settings with backend := command } := by
  obtain ⟨before, after, options_, free, sets, rfl⟩ := sets_of_parse valid bare
  have both : classifyAll (options ++ command) = .ok (before ++ words) := by
    rw [classifyAll_append options_ free, classified]
    rfl
  have zipped : (before ++ words).zip (options ++ command) =
      before.zip options ++ words.zip command :=
    List.zip_append (length_classifyAll options_)
  have enough : (before.zip options).length < (options ++ command).length + 1 := by
    rw [List.length_zip, List.length_append]
    omega
  have taken : (words.zip command).map (·.2) = command := by
    rw [← List.unzip_snd, List.unzip_zip_right (Nat.le_of_eq (length_classifyAll classified).symm)]
  unfold parse
  simp only [both, zipped, sets.act isCommand enough, taken]

/-- A command that is not understood is refused, whatever the options are. -/
theorem parse_append_refused {misuse : Misuse} (refused : classifyAll command = .error misuse) :
    parse (options ++ command) = .misuse misuse := by
  obtain ⟨before, after, options_, free, -⟩ := sets_of_parse valid bare
  have both : classifyAll (options ++ command) = .error misuse := by
    rw [classifyAll_append options_ free, refused]
    rfl
  unfold parse
  simp only [both]

end Lines

/-! ## The server's command -/

section Server

variable {command : String} (plain : command.toList.head? ≠ some '-') (rest : List String)

include plain

theorem ne_separator : command ≠ "--" := by
  rintro rfl
  exact plain rfl

/-- The first word of the command is no option. -/
theorem classify_plain : classify command = .ok (.operand command) := by
  simp [classify, plain]

theorem nameless?_cons : nameless? (command :: rest) = nameless? rest := by
  have named : ¬ isNameless command = true := by
    intro nameless
    obtain ⟨value, whole⟩ := List.isPrefixOf_iff_prefix.mp nameless
    exact plain (by simp [← whole])
  have other := ne_separator plain
  rw [nameless?, List.takeWhile_cons, if_pos (by simpa using other), List.find?_cons_of_neg named,
    nameless?]

/-- A separator takes the place of no word of the command. -/
theorem backendChoice_command (settings : Arguments) :
    { settings with backend := command :: rest }.backendChoice =
        .server command (rest.filter (· ≠ "--")) ∧
      { settings with backend := "--" :: command :: rest }.backendChoice =
        .server command (rest.filter (· ≠ "--")) := by
  have other := ne_separator plain
  simp [Arguments.backendChoice, other]

end Server

/-- Words are what is left of them without separators exactly if none of them is one. -/
theorem filter_eq_self_iff {words : List String} :
    words.filter (· ≠ "--") = words ↔ "--" ∉ words := by
  rw [List.filter_eq_self]
  simp only [decide_eq_true_eq]
  constructor
  · exact fun others member => others "--" member rfl
  · rintro free word member rfl
    exact free member

/-- Where no word is a separator, every word may be the nameless one. -/
theorem nameless?_of_free {rest : List String} (free : "--" ∉ rest) :
    nameless? rest = none ↔ ∀ word ∈ rest, isNameless word = false := by
  have whole : rest.takeWhile (· ≠ "--") = rest :=
    List.takeWhile_eq_self_iff.mpr fun word member =>
      decide_eq_true fun same => free (same ▸ member)
  rw [nameless?, whole]
  simp

/-- The words ask for a server that is started with this command and these arguments. -/
def Starts (words : List String) (command : String) (arguments : List String) : Prop :=
  ∃ read, parse words = .run read ∧ read.backendChoice = .server command arguments

/-- A line that is read starts the server that it asks for. -/
theorem starts_iff {words arguments : List String} {command : String} {read : Arguments}
    (valid : parse words = .run read) :
    Starts words command arguments ↔ read.backendChoice = .server command arguments := by
  constructor
  · rintro ⟨again, same, choice⟩
    cases valid.symm.trans same
    exact choice
  · exact fun choice => ⟨read, valid, choice⟩

section Reaching

variable {options : List String} {settings : Arguments} {command : String}
  (valid : parse options = .run settings) (bare : settings.backend = [])

include valid bare

/-- Behind a separator every command is read as it stands. -/
theorem parse_separated (command : List String) :
    parse (options ++ "--" :: command) = .run { settings with backend := "--" :: command } := by
  have classified : classifyAll ("--" :: command) = .ok (.separator :: command.map .operand) := rfl
  refine parse_append valid bare classified ?_
  rintro _ ⟨⟩
  exact .inl rfl

/-- Without one, a command is read as it stands but for its nameless words. -/
theorem parse_direct (plain : command.toList.head? ≠ some '-') (rest : List String) :
    parse (options ++ command :: rest) =
      match nameless? rest with
      | none => .run { settings with backend := command :: rest }
      | some word => .misuse (.ambiguous word longSpellings) := by
  cases found : nameless? rest with
  | some word =>
      have first : word ∈ nameless? (command :: rest) := by
        rw [nameless?_cons plain, found]
        rfl
      exact parse_append_refused valid bare (classifyAll_refuses_iff.mpr ⟨word, first, rfl⟩)
  | none =>
      cases later : classifyAll rest with
      | error misuse =>
          obtain ⟨word, member, _⟩ := classifyAll_refuses_iff.mp later
          cases found.symm.trans member
      | ok words =>
          have classified : classifyAll (command :: rest) = .ok (.operand command :: words) := by
            rw [classifyAll, if_neg (ne_separator plain), classify_plain plain]
            simp only [later]
          refine parse_append valid bare classified ?_
          rintro _ ⟨⟩
          exact .inr ⟨command, rfl⟩

end Reaching

/-- **The server is started with the very words of the command exactly if none of them is a
separator, and none is nameless where no separator stands in front of the command.**  Behind options
and a separator every command is read as it stands, and behind options alone every one but for its
nameless words; what is given to the server is what is left without separators. -/
theorem command_reaches_server {options : List String} {settings : Arguments} {command : String}
    (valid : parse options = .run settings) (bare : settings.backend = [])
    (plain : command.toList.head? ≠ some '-') (rest : List String) :
    parse (options ++ "--" :: command :: rest) =
        .run { settings with backend := "--" :: command :: rest } ∧
      parse (options ++ command :: rest) =
        (match nameless? rest with
          | none => .run { settings with backend := command :: rest }
          | some word => .misuse (.ambiguous word longSpellings)) ∧
      Starts (options ++ "--" :: command :: rest) command (rest.filter (· ≠ "--")) ∧
      (Starts (options ++ "--" :: command :: rest) command rest ↔ "--" ∉ rest) ∧
      (Starts (options ++ command :: rest) command rest ↔
        "--" ∉ rest ∧ ∀ word ∈ rest, isNameless word = false) := by
  obtain ⟨choice, separated⟩ := backendChoice_command plain rest settings
  have verbatim : BackendChoice.server command (rest.filter (· ≠ "--")) = .server command rest ↔
      "--" ∉ rest := by
    rw [BackendChoice.server.injEq, filter_eq_self_iff, eq_self, true_and]
  have first := parse_separated valid bare (command :: rest)
  have second := parse_direct valid bare plain rest
  refine ⟨first, second, (starts_iff first).mpr separated, ?_, ?_⟩
  · rw [starts_iff first, separated, verbatim]
  · cases found : nameless? rest with
    | none =>
        rw [found] at second
        rw [starts_iff second, choice, verbatim]
        exact ⟨fun free => ⟨free, (nameless?_of_free free).mp found⟩, And.left⟩
    | some word =>
        rw [found] at second
        refine iff_of_false ?_ ?_
        · rintro ⟨read, same, -⟩
          cases second.symm.trans same
        · rintro ⟨free, named⟩
          cases found.symm.trans ((nameless?_of_free free).mpr named)

/-- The command of a browser's server reaches it as it stands, options and all. -/
theorem command_reaches_server_headless :
    parse ["--ledger", "site.json"] = .run { ledger := .value "site.json" } ∧
      Starts ["--ledger", "site.json", "--", "npx", "@playwright/mcp", "--headless"] "npx"
        ["@playwright/mcp", "--headless"] ∧
      Starts ["--ledger", "site.json", "npx", "@playwright/mcp", "--headless"] "npx"
        ["@playwright/mcp", "--headless"] := by
  have valid : parse ["--ledger", "site.json"] = .run { ledger := .value "site.json" } := by
    decide +kernel
  have plain : "npx".toList.head? ≠ some '-' := by decide
  obtain ⟨_, _, _, separated, direct⟩ :=
    command_reaches_server valid rfl plain ["@playwright/mcp", "--headless"]
  exact ⟨valid, separated.mpr (by decide), direct.mpr (by decide)⟩

/-- **A separator of the server's own does not reach it**, whether one stands in front of the
command or not; and a nameless word is refused. -/
theorem second_separator_dropped :
    parse [] = .run {} ∧ "npx".toList.head? ≠ some '-' ∧
      Starts ["npx", "serve", "--", "x"] "npx" ["serve", "x"] ∧
      ¬ Starts ["npx", "serve", "--", "x"] "npx" ["serve", "--", "x"] ∧
      ¬ Starts ["--", "npx", "serve", "--", "x"] "npx" ["serve", "--", "x"] ∧
      ∀ command arguments, ¬ Starts ["npx", "--=x"] command arguments := by
  have direct : parse ["npx", "serve", "--", "x"] =
      .run { backend := ["npx", "serve", "--", "x"] } := by
    decide +kernel
  have separated : parse ["--", "npx", "serve", "--", "x"] =
      .run { backend := ["--", "npx", "serve", "--", "x"] } := by
    decide +kernel
  have refused : parse ["npx", "--=x"] = .misuse (.ambiguous "--=x" longSpellings) := by
    decide +kernel
  refine ⟨rfl, by decide, ?_, ?_, ?_, ?_⟩
  · exact (starts_iff direct).mpr (by decide)
  · exact mt (starts_iff direct).mp (by decide)
  · exact mt (starts_iff separated).mp (by decide)
  · rintro command arguments ⟨read, same, -⟩
    cases refused.symm.trans same

end WebPilot.CommandLine
