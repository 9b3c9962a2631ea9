import WebPilot.Proofs.Browser.Releasing
import WebPilot.Proofs.Text.Pieces
import WebPilot.Proofs.Text.Utf8

/-!
# Listening to a browser that starts

An announcement lies within a line, and neither the trimming of the line nor the cutting of the
output into lines, done before the bytes are read as characters, takes any away: a text announces
what the first of its lines announces that announces anything (`announced?_decodeLossy`).  A listener
that hears the output piece by piece, with a line that has not ended between two pieces, tells what
is heard of all pieces together (`Listener.tells_pieces`).

So **a launch comes to what the whole text says that was written**, in whichever pieces it arrived
(`Launcher.start_decides`): it returns the first address that is announced on a line that has ended,
or fails with the process ended and no one listening.  This holds as long as no line is too long
before an address is announced (`Audible`).  A line that is breaks the listener, and with it the
launch (`Launcher.overlong_line_breaks_launch`).
-/

namespace WebPilot.Browser

set_option autoImplicit false

/-! ## Announcements in texts -/

/-- What an announcement begins with. -/
def announcingPhrase : List Char :=
  announcementWords ++ socketStart

/-- The address whose end stands at the start of a text. -/
def named? (cs : List Char) : Option String :=
  let tail := cs.takeWhile (!Text.isBlank ·)
  if tail.isEmpty then none else some (String.ofList (socketStart ++ tail))

/-- The address that is announced at the start of a text. -/
def atStart? (cs : List Char) : Option String :=
  if announcementWords.isPrefixOf cs then addressAt? (cs.drop announcementWords.length) else none

theorem announced?_cons (c : Char) (cs : List Char) :
    announced? (c :: cs) = (atStart? (c :: cs)).or (announced? cs) :=
  rfl

theorem atStart?_phrase (cs : List Char) : atStart? (announcingPhrase ++ cs) = named? cs := by
  have words : announcementWords.isPrefixOf (announcingPhrase ++ cs) := by
    rw [announcingPhrase, List.append_assoc, List.isPrefixOf_iff_prefix]
    exact List.prefix_append _ _
  have socket : socketStart.isPrefixOf (socketStart ++ cs) :=
    List.isPrefixOf_iff_prefix.mpr (List.prefix_append _ _)
  rw [atStart?, if_pos words, announcingPhrase, List.append_assoc, List.drop_left, addressAt?,
    if_pos socket, List.drop_left]
  rfl

theorem atStart?_of_not {cs : List Char} (other : ¬announcingPhrase <+: cs) :
    atStart? cs = none := by
  unfold atStart? addressAt?
  split
  · rename_i words
    obtain ⟨rest, rfl⟩ := List.isPrefixOf_iff_prefix.mp words
    rw [List.drop_left, if_neg]
    rintro socket
    rw [List.isPrefixOf_iff_prefix] at socket
    exact other ((List.prefix_append_right_inj _).mpr socket)
  · rfl

/-- A tail that ends a text: it begins with a blank, and with no end of the phrase. -/
structure Ending (tail : List Char) : Prop where
  blank : ∀ c ∈ tail.head?, Text.isBlank c = true
  apart : ∀ more, more ≠ [] → more <:+ announcingPhrase → ¬more <+: tail

theorem ending_break (cs : List Char) : Ending ('\n' :: cs) where
  blank := by
    rintro c ⟨⟩
    decide
  apart := by
    rintro more filled ends ⟨rest, starts⟩
    obtain ⟨c, more, rfl⟩ := List.exists_cons_of_ne_nil filled
    cases starts
    have inside : '\n' ∈ announcingPhrase := ends.subset List.mem_cons_self
    exact absurd inside (by decide)

theorem ending_blank {tail : List Char} (blank : ∀ c ∈ tail, Text.isBlank c = true) :
    Ending tail where
  blank c head := blank c (List.mem_of_mem_head? head)
  apart := by
    intro more filled ends starts
    have last : more.getLast filled = '/' := (ends.getLast filled).trans rfl
    have member : '/' ∈ more := last ▸ List.getLast_mem filled
    exact absurd (blank '/' (starts.subset member)) (by decide)

section Tail

variable {tail : List Char} (ending : Ending tail)

include ending

theorem atStart?_append (cs : List Char) : atStart? (cs ++ tail) = atStart? cs := by
  by_cases starts : announcingPhrase <+: cs
  · obtain ⟨rest, rfl⟩ := starts
    have same : named? (rest ++ tail) = named? rest := by
      unfold named?
      rw [Text.takeWhile_append rest]
      intro c head
      rw [ending.blank c head]
      rfl
    rw [List.append_assoc, atStart?_phrase, atStart?_phrase, same]
  · have apart : ¬announcingPhrase <+: cs ++ tail := by
      intro longer
      rcases List.prefix_or_prefix_of_prefix longer (List.prefix_append cs tail) with
        within | ⟨more, whole⟩
      · exact starts within
      · rw [← whole, List.prefix_append_right_inj] at longer
        refine ending.apart more ?_ ⟨cs, whole⟩ longer
        rintro rfl
        exact starts ⟨[], by rw [← whole, List.append_nil, List.append_nil]⟩
    rw [atStart?_of_not starts, atStart?_of_not apart]

/-- A tail that ends a text adds its own announcement. -/
theorem announced?_append (cs : List Char) :
    announced? (cs ++ tail) = (announced? cs).or (announced? tail) := by
  induction cs with
  | nil => rfl
  | cons c cs ih =>
    rw [List.cons_append, announced?_cons, announced?_cons, ← List.cons_append,
      atStart?_append ending, ih, Option.or_assoc]

/-- Such a tail announces nothing at its start. -/
theorem atStart?_ending : atStart? tail = none :=
  atStart?_append ending []

end Tail

/-- A line break announces nothing. -/
theorem announced?_break (cs : List Char) : announced? ('\n' :: cs) = announced? cs := by
  rw [announced?_cons, atStart?_ending (ending_break cs), Option.none_or]

theorem announced?_blank {cs : List Char} (blank : ∀ c ∈ cs, Text.isBlank c = true) :
    announced? cs = none := by
  induction cs with
  | nil => rfl
  | cons c cs ih =>
    rw [announced?_cons, atStart?_ending (ending_blank blank), Option.none_or]
    exact ih fun c member => blank c (List.mem_cons_of_mem _ member)

/-- Trimming a line takes no announcement away. -/
theorem announced?_dropRight (cs : List Char) :
    announced? (Text.dropRight Text.isBlank cs) = announced? cs := by
  obtain ⟨tail, whole, blank, -⟩ := Text.dropRight_split Text.isBlank cs
  have same := announced?_append (ending_blank blank) (Text.dropRight Text.isBlank cs)
  rw [← whole, announced?_blank blank, Option.or_none] at same
  exact same.symm

/-! ## Lines -/

open Text.Utf8 (decodeLossy)

theorem lineAddress?_eq (bytes : List UInt8) :
    lineAddress? bytes = announced? (decodeLossy bytes) :=
  announced?_dropRight _

/-- What the first line announces that announces anything. -/
def firstAddress? (lines : List (List UInt8)) : Option String :=
  lines.findSome? lineAddress?

theorem firstAddress?_cons (line : List UInt8) (lines : List (List UInt8)) :
    firstAddress? (line :: lines) = (lineAddress? line).or (firstAddress? lines) := by
  rw [firstAddress?, List.findSome?_cons]
  cases lineAddress? line <;> rfl

theorem firstAddress?_append (before after : List (List UInt8)) :
    firstAddress? (before ++ after) = (firstAddress? before).or (firstAddress? after) :=
  List.findSome?_append

/-- A line break stands between two announcements. -/
theorem announced?_line (line rest : List UInt8) :
    announced? (decodeLossy (line ++ 10 :: rest)) =
      (lineAddress? line).or (announced? (decodeLossy rest)) := by
  have cut := Text.Utf8.decodeLossy_append_cons (b := 10) (by decide) line rest
  rw [cut, lineAddress?_eq, ← announced?_break (decodeLossy rest)]
  exact announced?_append (ending_break _) _

/-- **A text announces what the first of its lines announces that announces anything.** -/
theorem announced?_decodeLossy (bytes : List UInt8) :
    announced? (decodeLossy bytes) = firstAddress? (Text.splitOn 10 bytes) := by
  rw [← Text.intercalate_splitOn 10 bytes]
  have free line (member : line ∈ Text.splitOn 10 bytes) : 10 ∉ line :=
    Text.notMem_of_mem_splitOn member
  rw [Text.splitOn_intercalate (Text.splitOn_ne_nil 10 bytes) free]
  generalize Text.splitOn 10 bytes = lines
  induction lines with
  | nil => rfl
  | cons line lines ih =>
    rw [firstAddress?_cons]
    cases lines with
    | nil => rw [List.intercalate_singleton, lineAddress?_eq, firstAddress?, List.findSome?_nil,
        Option.or_none]
    | cons next lines =>
      rw [List.intercalate_cons_cons, List.append_assoc, List.singleton_append, announced?_line, ih]

/-- The bytes that are read in the end: those of the lines that have ended, and all of them once the
output has ended. -/
def readable (bytes : List UInt8) (ended : Bool) : List UInt8 :=
  if ended then bytes else Text.dropRight (· ≠ 10) bytes

/-- The lines that are read in the end. -/
def readLines (ended : Bool) (lines : List (List UInt8)) : List (List UInt8) :=
  if ended then lines else lines.dropLast

/-- Reading the text as a whole is reading it line by line. -/
theorem announced?_readable (bytes : List UInt8) (ended : Bool) :
    announced? (decodeLossy (readable bytes ended)) =
      firstAddress? (readLines ended (Text.splitOn 10 bytes)) := by
  cases ended with
  | true => exact announced?_decodeLossy bytes
  | false =>
    show announced? (decodeLossy (Text.dropRight (· ≠ 10) bytes)) =
      firstAddress? (Text.splitOn 10 bytes).dropLast
    rw [announced?_decodeLossy, Text.splitOn_dropRight, firstAddress?_append]
    exact Option.or_none

/-! ## Lines that are too long -/

/-- No line is too long up to the first that announces an address. -/
def Audible (lines : List (List UInt8)) : Prop :=
  ∀ before line after, lines = before ++ line :: after → firstAddress? before = none →
    line.length ≤ maxLineBytes

theorem audible_cons {line : List UInt8} {lines : List (List UInt8)} :
    Audible (line :: lines) ↔
      line.length ≤ maxLineBytes ∧ (lineAddress? line = none → Audible lines) := by
  constructor
  · intro audible
    refine ⟨audible [] line lines rfl rfl, fun silent before next after whole none_ => ?_⟩
    refine audible (line :: before) next after (whole ▸ rfl) ?_
    rw [firstAddress?_cons, silent, none_, Option.or_none]
  · rintro ⟨short, later⟩ before next after whole silent
    cases before with
    | nil =>
      cases whole
      exact short
    | cons first before =>
      cases whole
      rw [firstAddress?_cons, Option.or_eq_none_iff] at silent
      exact later silent.1 before next after rfl silent.2

section Listening

variable {ended : Bool}

theorem listenTo_last (address : Option String) (last : List UInt8) :
    listenTo ended address [last] =
      if maxLineBytes < last.length then
        ⟨address, .broken "Separator is not found, and chunk exceed the limit"⟩
      else if ended then ⟨address.or (lineAddress? last), .finished⟩
      else ⟨address, .waiting⟩ := by
  rw [listenTo]

theorem listenTo_next (address : Option String) (line next : List UInt8)
    (lines : List (List UInt8)) :
    listenTo ended address (line :: next :: lines) =
      if maxLineBytes < line.length then
        ⟨address, .broken "Separator is found, but chunk is longer than limit"⟩
      else listenTo ended (address.or (lineAddress? line)) (next :: lines) := by
  rw [listenTo]
  nofun

/-- What was heard first stays. -/
theorem listenTo_heard (address : String) (lines : List (List UInt8)) :
    (listenTo ended (some address) lines).address = some address := by
  induction lines with
  | nil => rfl
  | cons line lines ih =>
    cases lines with
    | nil =>
      rw [listenTo_last]
      split
      · rfl
      split <;> rfl
    | cons next lines =>
      rw [listenTo_next]
      split
      · rfl
      · exact ih

/-- **Lines that are not too long are heard**, and then the listener goes on. -/
theorem listenTo_audible {lines : List (List UInt8)} (filled : lines ≠ [])
    (audible : Audible lines) :
    (listenTo ended none lines).address = firstAddress? (readLines ended lines) ∧
      ((listenTo ended none lines).address = none →
        (listenTo ended none lines).state = if ended then .finished else .waiting) := by
  induction lines with
  | nil => exact absurd rfl filled
  | cons line lines ih =>
    obtain ⟨short, later⟩ := audible_cons.mp audible
    cases lines with
    | nil =>
      rw [listenTo_last, if_neg (Nat.not_lt.mpr short)]
      cases ended with
      | true =>
        refine ⟨?_, fun _ => rfl⟩
        show lineAddress? line = firstAddress? [line]
        rw [firstAddress?_cons]
        exact Option.or_none.symm
      | false => exact ⟨rfl, fun _ => rfl⟩
    | cons next lines =>
      have reads : readLines ended (line :: next :: lines) =
          line :: readLines ended (next :: lines) := by
        cases ended <;> rfl
      rw [listenTo_next, if_neg (Nat.not_lt.mpr short), Option.none_or, reads, firstAddress?_cons]
      cases said : lineAddress? line with
      | none => exact ih (List.cons_ne_nil _ _) (later said)
      | some address =>
        rw [listenTo_heard]
        exact ⟨rfl, nofun⟩

/-- **A line that is too long breaks the listener**, and nothing was heard. -/
theorem listenTo_inaudible {lines : List (List UInt8)} (inaudible : ¬Audible lines) :
    ∃ reason, listenTo ended none lines = ⟨none, .broken reason⟩ := by
  induction lines with
  | nil =>
    refine absurd (fun before line after whole => ?_) inaudible
    exact absurd whole.symm (List.append_ne_nil_of_right_ne_nil _ (List.cons_ne_nil _ _))
  | cons line lines ih =>
    by_cases short : line.length ≤ maxLineBytes
    · have more : ¬(lineAddress? line = none → Audible lines) :=
        fun later => inaudible (audible_cons.mpr ⟨short, later⟩)
      obtain ⟨silent, later⟩ := Classical.not_imp.mp more
      obtain ⟨reason, breaks⟩ := ih later
      cases lines with
      | nil =>
        rw [listenTo] at breaks
        cases ended <;> cases breaks
      | cons next lines =>
        rw [listenTo_next, if_neg (Nat.not_lt.mpr short), silent]
        exact ⟨reason, breaks⟩
    · have long := Nat.not_le.mp short
      cases lines with
      | nil => exact ⟨_, by rw [listenTo_last, if_pos long]⟩
      | cons next lines => exact ⟨_, by rw [listenTo_next, if_pos long]⟩

end Listening

/-! ## Output that arrives in pieces -/

/-- A listener between two pieces of the output: the line that has not ended, what was heard, and
whether a line broke it. -/
structure Listener where
  line : List UInt8 := []
  address : Option String := none
  broken : Bool := false

namespace Listener

/-- A listener that a line has broken. -/
def breakOff (l : Listener) : Listener :=
  { l with line := [], broken := true }

/-- Reads a line that has ended. -/
def take (l : Listener) (line : List UInt8) : Listener :=
  if l.broken then l
  else if maxLineBytes < line.length then l.breakOff
  else { l with address := l.address.or (lineAddress? line) }

/-- Holds a line that has not ended. -/
def hold (l : Listener) (line : List UInt8) : Listener :=
  if l.broken then l
  else if maxLineBytes < line.length then l.breakOff
  else { l with line }

/-- Takes in one more piece of the output. -/
def hear (l : Listener) (piece : List UInt8) : Listener :=
  let lines := Text.splitOn 10 (l.line ++ piece)
  (lines.dropLast.foldl take { l with line := [] }).hold (lines.getLast?.getD [])

/-- What the listener has heard, and what it does, when no more piece comes. -/
def Tells (l : Listener) (ended : Bool) (heard : Heard) : Prop :=
  if l.broken then heard.address = l.address ∧ ∃ reason, heard.state = .broken reason
  else heard =
    if ended then ⟨l.address.or (lineAddress? l.line), .finished⟩ else ⟨l.address, .waiting⟩

variable {l : Listener}

theorem take_broken (broken : l.broken) (line : List UInt8) : l.take line = l :=
  if_pos broken

theorem hold_broken (broken : l.broken) (line : List UInt8) : l.hold line = l :=
  if_pos broken

theorem take_long (unbroken : l.broken = false) {line : List UInt8}
    (long : maxLineBytes < line.length) : l.take line = l.breakOff := by
  rw [take, unbroken, if_neg Bool.false_ne_true, if_pos long]

theorem hold_long (unbroken : l.broken = false) {line : List UInt8}
    (long : maxLineBytes < line.length) : l.hold line = l.breakOff := by
  rw [hold, unbroken, if_neg Bool.false_ne_true, if_pos long]

theorem take_short (unbroken : l.broken = false) {line : List UInt8}
    (short : ¬maxLineBytes < line.length) :
    l.take line = { l with address := l.address.or (lineAddress? line) } := by
  rw [take, if_neg (Bool.not_eq_true _ ▸ unbroken), if_neg short]

theorem hold_short (unbroken : l.broken = false) {line : List UInt8}
    (short : ¬maxLineBytes < line.length) : l.hold line = { l with line } := by
  rw [hold, if_neg (Bool.not_eq_true _ ▸ unbroken), if_neg short]

theorem tells_unbroken (unbroken : l.broken = false) (ended : Bool) :
    l.Tells ended
      (if ended then ⟨l.address.or (lineAddress? l.line), .finished⟩ else ⟨l.address, .waiting⟩) := by
  rw [Tells, unbroken]
  rfl

theorem foldl_take_broken (broken : l.broken) (lines : List (List UInt8)) :
    lines.foldl take l = l := by
  induction lines with
  | nil => rfl
  | cons line lines ih => rw [List.foldl_cons, take_broken broken, ih]

theorem line_foldl_take (fresh : l.line = []) (lines : List (List UInt8)) :
    (lines.foldl take l).line = [] := by
  induction lines generalizing l with
  | nil => exact fresh
  | cons line lines ih =>
    refine ih ?_
    unfold take breakOff
    split
    · exact fresh
    split
    · rfl
    · exact fresh

theorem hear_of_lines {piece last : List UInt8} {lines : List (List UInt8)}
    (cut : Text.splitOn 10 (l.line ++ piece) = lines ++ [last]) :
    l.hear piece = (lines.foldl take { l with line := [] }).hold last := by
  rw [hear]
  simp only [cut, List.dropLast_concat, List.getLast?_concat, Option.getD_some]

theorem cleared (fresh : l.line = []) : { l with line := [] } = l := by
  rw [← fresh]

theorem hear_broken (broken : l.broken) (fresh : l.line = []) (piece : List UInt8) :
    l.hear piece = l := by
  rw [hear]
  simp only [cleared fresh, foldl_take_broken broken, hold_broken broken]

/-- **Two pieces are heard as one.** -/
theorem hear_hear (l : Listener) (first second : List UInt8) :
    (l.hear first).hear second = l.hear (first ++ second) := by
  obtain ⟨lines, last, cut, free, longer⟩ := Text.splitOn_split 10 (l.line ++ first)
  obtain ⟨more, final, rest, -⟩ := Text.splitOn_split 10 (last ++ second)
  have whole : Text.splitOn 10 (l.line ++ (first ++ second)) = (lines ++ more) ++ [final] := by
    rw [← List.append_assoc, longer, rest, List.append_assoc]
  rw [hear_of_lines cut, hear_of_lines whole, List.foldl_append]
  have fresh := line_foldl_take (l := { l with line := [] }) rfl lines
  generalize lines.foldl take { l with line := [] } = m at fresh
  cases broken : m.broken with
  | true =>
    rw [hold_broken broken, hear_broken broken fresh, foldl_take_broken broken, hold_broken broken]
  | false =>
    by_cases long : maxLineBytes < last.length
    · rw [hold_long broken long, hear_broken rfl rfl]
      -- The line that is too long already is the start of a line of both pieces together.
      obtain ⟨later, pieces, starts⟩ := Text.splitOn_of_start free second
      have longer : maxLineBytes < (last ++ later).length := by
        rw [List.length_append]
        exact Nat.lt_add_right _ long
      rw [starts] at rest
      cases more with
      | nil =>
        cases rest
        exact (hold_long broken longer).symm
      | cons line more =>
        cases rest
        rw [List.foldl_cons, take_long broken longer, foldl_take_broken rfl, hold_broken rfl]
    · rw [hold_short broken long, hear_of_lines rest, cleared fresh]

/-- The pieces are heard as the bytes that they are made of. -/
theorem foldl_hear (l : Listener) (piece : List UInt8) (pieces : List (List UInt8)) :
    pieces.foldl hear (l.hear piece) = l.hear (piece ++ pieces.flatten) := by
  induction pieces generalizing piece with
  | nil => rw [List.foldl_nil, List.flatten_nil, List.append_nil]
  | cons next pieces ih =>
    rw [List.foldl_cons, hear_hear, ih, List.flatten_cons, List.append_assoc]

/-- A listener that takes in line after line tells what is heard of all of them. -/
theorem tells_lines (ended : Bool) (fresh : l.line = []) (unbroken : l.broken = false)
    {lines : List (List UInt8)} (filled : lines ≠ []) :
    ((lines.dropLast.foldl take l).hold (lines.getLast?.getD [])).Tells ended
      (listenTo ended l.address lines) := by
  induction lines generalizing l with
  | nil => exact absurd rfl filled
  | cons line lines ih =>
    cases lines with
    | nil =>
      rw [listenTo_last]
      show (l.hold line).Tells ended _
      by_cases long : maxLineBytes < line.length
      · rw [hold_long unbroken long, if_pos long]
        exact ⟨rfl, _, rfl⟩
      · rw [hold_short unbroken long, if_neg long]
        exact tells_unbroken (l := { l with line }) unbroken ended
    | cons next lines =>
      rw [listenTo_next, List.dropLast_cons_cons, List.foldl_cons, List.getLast?_cons_cons]
      by_cases long : maxLineBytes < line.length
      · rw [take_long unbroken long, if_pos long, foldl_take_broken rfl, hold_broken rfl]
        exact ⟨rfl, _, rfl⟩
      · rw [take_short unbroken long, if_neg long]
        exact ih (l := { l with address := l.address.or (lineAddress? line) }) fresh unbroken
          (List.cons_ne_nil _ _)

/-- **A listener that hears the pieces as they arrive** tells what is heard of all the output at
once. -/
theorem tells_pieces (pieces : List (List UInt8)) (ended : Bool) :
    (pieces.foldl hear {}).Tells ended (listen pieces ended) := by
  have all : pieces.foldl hear {} = hear {} pieces.flatten := foldl_hear {} [] pieces
  rw [all]
  exact tells_lines ended rfl rfl (Text.splitOn_ne_nil 10 _)

end Listener

/-! ## Launching -/

namespace ProcessScript

/-- The return code of the process once it has been stopped. -/
def endCode (script : ProcessScript) : Int :=
  script.exited.getD
    (if script.goneAtTerminate then 1 else if script.ignoresTerminate then -9 else -15)

/-- The lines of the output, however it arrives. -/
def lines (script : ProcessScript) : List (List UInt8) :=
  Text.splitOn 10 script.output.flatten

/-- The address that the output announces, as a whole text. -/
def address? (script : ProcessScript) : Option String :=
  announced? (decodeLossy (readable script.output.flatten script.outputEnds))

end ProcessScript

namespace Launcher

variable {o : LaunchOptions} {found : Option String} {script : ProcessScript}

/-- What a launch says when the output ended without an address. -/
def exitedEarly : Failure :=
  .backendUnavailable "Chrome exited before announcing its DevTools URL"

/-- What a launch says when no address came in time. -/
def timedOut (o : LaunchOptions) : Failure :=
  let seconds := Decimal.fixed 0 o.readySeconds.toFloat
  .backendUnavailable s!"timeout waiting for Chrome WebSocket URL after {seconds}s"

/-- A launcher that has started a process and listens to it. -/
def holding (l : Launcher) (script : ProcessScript) (code : Option Int) : Launcher :=
  { l with
    process := some ⟨script, code⟩
    listener := some script.listener }

/-- Ending a process that runs gives it its return code. -/
theorem endProcess_code (l : Launcher) (runs : script.exited = none) :
    ∃ events, endProcess script (l.holding script none) =
      (events, .ok (), l.holding script (some script.endCode)) := by
  unfold endProcess ProcessScript.endCode
  rw [runs]
  cases script.goneAtTerminate <;> cases script.ignoresTerminate
  all_goals exact ⟨_, rfl⟩

/-- Stopping ends the process, whichever way it goes, and then the listener. -/
theorem stop_holding (l : Launcher) (script : ProcessScript) :
    ∃ events, stop (l.holding script script.exited) =
      (events, (endListener (l.holding script (some script.endCode))).2) := by
  unfold stop
  rw [Operation.state_bind]
  cases exited : script.exited with
  | none =>
    obtain ⟨events, ends⟩ := endProcess_code l exited
    exact ⟨_, Operation.bind_of_ok ends⟩
  | some code =>
    have same : script.endCode = code := by
      rw [ProcessScript.endCode, exited]
      rfl
    rw [same]
    exact ⟨_, rfl⟩

/-- A launch that gives up has ended the process, and the listener unless that broke. -/
theorem giveUp_eq (l : Launcher) (script : ProcessScript) (failure : Failure) :
    ∃ events, (stop >>= fun _ => .fail failure : Operation Launcher String)
        (l.holding script script.exited) =
      match script.listener with
      | .broken reason =>
        (events, .error (.badValue reason), l.holding script (some script.endCode))
      | _ => (events, .error failure,
          { l.holding script (some script.endCode) with listener := none }) := by
  obtain ⟨events, stops⟩ := stop_holding l script
  unfold endListener at stops
  rw [Operation.state_bind] at stops
  cases listener : script.listener with
  | broken reason =>
    simp only [holding, listener] at stops ⊢
    exact ⟨_, Operation.bind_of_error stops⟩
  | waiting =>
    simp only [holding, listener] at stops ⊢
    exact ⟨_, Operation.bind_of_ok stops⟩
  | finished =>
    simp only [holding, listener] at stops ⊢
    exact ⟨_, Operation.bind_of_ok stops⟩

section Chosen

variable {executable : String}
  (chosen : (o.executable.filter (!·.isEmpty)).or found = some executable)
  (starts : script.startFault = none) (l : Launcher)

include chosen starts

/-- What a launch does once the process has started and the listener has heard what it can. -/
theorem start_eq {address : Option String} {state : ListenerState}
    (heard : listen script.output script.outputEnds = ⟨address, state⟩) :
    ∃ events, start o found script l =
      match address, state with
      | some address, _ =>
        (events, .ok address, { l.holding script script.exited with address := some address })
      | none, .broken reason =>
        (events, .error (.badValue reason), l.holding script (some script.endCode))
      | none, .finished => (events, .error exitedEarly,
          { l.holding script (some script.endCode) with listener := none })
      | none, .waiting => (events, .error (timedOut o),
          { l.holding script (some script.endCode) with listener := none }) := by
  have spawns : spawn o script executable l =
      ([.process (.start executable o.arguments)], .ok ⟨address, state⟩,
        l.holding script script.exited) := by
    unfold spawn
    rw [starts, ← heard]
    rfl
  have waits : emit (.waitFor o.readySeconds.toFloat) (l.holding script script.exited) =
      ([.process (.waitFor o.readySeconds.toFloat)], .ok (), l.holding script script.exited) := rfl
  have givesUp := giveUp_eq l script
  simp only [ProcessScript.listener, heard] at givesUp
  unfold start
  simp only [chosen]
  cases address with
  | some address => exact ⟨_, Operation.bind_runs spawns (Operation.bind_runs waits rfl)⟩
  | none =>
    cases state with
    | finished =>
      obtain ⟨_, gives⟩ := givesUp exitedEarly
      exact ⟨_, Operation.bind_runs spawns (Operation.bind_runs waits gives)⟩
    | waiting =>
      obtain ⟨_, gives⟩ := givesUp (timedOut o)
      exact ⟨_, Operation.bind_runs spawns (Operation.bind_runs waits gives)⟩
    | broken reason =>
      obtain ⟨_, gives⟩ := givesUp (timedOut o)
      exact ⟨_, Operation.bind_runs spawns (Operation.bind_runs waits gives)⟩

/-- **A launch comes to what the whole text says that was written**, in whichever pieces it came:
it returns the first address that is announced, or fails with the process ended and no one
listening.  Only a line that is too long, before any address, breaks the listener, and the launch
with it. -/
theorem start_decides :
    (script.output.foldl Listener.hear {}).Tells script.outputEnds
        (listen script.output script.outputEnds) ∧
      ∃ events outcome l', start o found script l = (events, outcome, l') ∧
        (Audible script.lines →
          match script.address? with
          | some address => outcome = .ok address ∧ l'.address = some address
          | none =>
            outcome = .error (if script.outputEnds then exitedEarly else timedOut o) ∧
              l'.process = some ⟨script, some script.endCode⟩ ∧ l'.listener = none) ∧
        (¬Audible script.lines → ∃ reason, outcome = .error (.badValue reason) ∧
          l'.process = some ⟨script, some script.endCode⟩ ∧
          l'.listener = some (.broken reason)) := by
  refine ⟨Listener.tells_pieces _ _, ?_⟩
  by_cases audible : Audible script.lines
  · obtain ⟨said, goesOn⟩ := listenTo_audible (Text.splitOn_ne_nil 10 _) audible
    have text : script.address? = (listen script.output script.outputEnds).address :=
      (announced?_readable _ _).trans said.symm
    rw [text]
    rcases heard : listen script.output script.outputEnds with ⟨_ | address, state⟩
    · have after : state = if script.outputEnds then .finished else .waiting := by
        have state_ := goesOn (congrArg Heard.address heard)
        exact (congrArg Heard.state heard).symm.trans state_
      obtain ⟨events, runs⟩ := start_eq chosen starts l heard
      cases ends : script.outputEnds with
      | true =>
        rw [ends] at after
        subst after
        exact ⟨_, _, _, runs, fun _ => ⟨rfl, rfl, rfl⟩, fun drowned => absurd audible drowned⟩
      | false =>
        rw [ends] at after
        subst after
        exact ⟨_, _, _, runs, fun _ => ⟨rfl, rfl, rfl⟩, fun drowned => absurd audible drowned⟩
    · obtain ⟨events, runs⟩ := start_eq chosen starts l heard
      exact ⟨_, _, _, runs, fun _ => ⟨rfl, rfl⟩, fun drowned => absurd audible drowned⟩
  · obtain ⟨reason, heard⟩ : ∃ reason,
        listen script.output script.outputEnds = ⟨none, .broken reason⟩ :=
      listenTo_inaudible audible
    obtain ⟨events, runs⟩ := start_eq chosen starts l heard
    refine ⟨_, _, _, runs, fun clear => absurd clear audible, fun _ => ⟨reason, rfl, rfl, ?_⟩⟩
    exact congrArg (some ∘ Heard.state) heard

end Chosen

end Launcher

namespace Sample

/-- How a browser is launched that is known by its path. -/
def launch : LaunchOptions where
  executable := some "chrome"
  profile := .ofText "profile"

/-- A browser whose announcement arrives in pieces. -/
def hesitant : ProcessScript where
  output := [[0xff, 10, 68], Text.Utf8.encode "evTools listening on ws://local",
    Text.Utf8.encode "host/1\n"]

/-- A browser that says nothing and does not end when it is asked to. -/
def stubborn : ProcessScript where
  output := [Text.Utf8.encode "DevTools listening on ws:/", Text.Utf8.encode "/localhost/1"]
  ignoresTerminate := true

/-- A browser whose announcement follows a line that is too long. -/
def drowned : ProcessScript where
  output := [List.replicate 65537 120 ++ [10],
    Text.Utf8.encode "DevTools listening on ws://localhost/1\n"]

end Sample

namespace Launcher

theorem audible_of_short {lines : List (List UInt8)}
    (short : ∀ line ∈ lines, line.length ≤ maxLineBytes) : Audible lines := by
  rintro before line after rfl -
  exact short line (List.mem_append_right _ List.mem_cons_self)

/-- An announcement in pieces is heard, and one that has not ended is not. -/
theorem start_decides_in_pieces :
    (∃ events l', start Sample.launch none Sample.hesitant {} =
      (events, .ok "ws://localhost/1", l')) ∧
    ∃ events l', start Sample.launch none Sample.stubborn {} =
        (events, .error (timedOut Sample.launch), l') ∧
      l'.process = some ⟨Sample.stubborn, some (-9)⟩ ∧ l'.listener = none := by
  have chosen : (Sample.launch.executable.filter (!·.isEmpty)).or none = some "chrome" := rfl
  constructor
  · have starts : Sample.hesitant.startFault = none := rfl
    have audible : Audible Sample.hesitant.lines := audible_of_short (by decide)
    have said : Sample.hesitant.address? = some "ws://localhost/1" := by decide
    obtain ⟨-, events, outcome, l', runs, clear, -⟩ := start_decides chosen starts {}
    rw [said] at clear
    obtain ⟨rfl, -⟩ := clear audible
    exact ⟨events, l', runs⟩
  · have starts : Sample.stubborn.startFault = none := rfl
    have audible : Audible Sample.stubborn.lines := audible_of_short (by decide)
    have silent : Sample.stubborn.address? = none := by decide
    obtain ⟨-, events, outcome, l', runs, clear, -⟩ := start_decides chosen starts {}
    rw [silent] at clear
    obtain ⟨rfl, process, listener⟩ := clear audible
    exact ⟨events, l', runs, process, listener⟩

/-- Noise on a line announces nothing. -/
theorem lineAddress?_noise (count : Nat) : lineAddress? (List.replicate count 120) = none := by
  rw [lineAddress?_eq]
  induction count with
  | zero => rfl
  | succ count ih =>
    have first := Text.Utf8.decodeLossy_append_cons (b := 120) (by decide) []
      (List.replicate count 120)
    have silent (cs : List Char) : atStart? ('x' :: cs) = none := rfl
    rw [List.replicate_succ, ← List.nil_append (120 :: _), first]
    show announced? ('x' :: decodeLossy (List.replicate count 120)) = none
    rw [announced?_cons, silent, ih]
    rfl

/-- **A line that is too long breaks a launch**: the address that is announced behind it is not
heard, the failure is not that the browser is unavailable, and the listener is not given back. -/
theorem overlong_line_breaks_launch :
    Sample.drowned.address? = some "ws://localhost/1" ∧
      ∃ events l', start Sample.launch none Sample.drowned {} =
          (events, .error (.badValue "Separator is found, but chunk is longer than limit"), l') ∧
        l'.listener ≠ none := by
  have free : 10 ∉ List.replicate 65537 (120 : UInt8) := by
    intro member
    cases List.eq_of_mem_replicate member
  have whole : Sample.drowned.output.flatten = List.replicate 65537 120 ++
      10 :: Text.Utf8.encode "DevTools listening on ws://localhost/1\n" := by
    rw [Sample.drowned, List.flatten_cons, List.flatten_cons, List.flatten_nil, List.append_nil,
      List.append_assoc, List.singleton_append]
  have rest : Text.splitOn 10 (Text.Utf8.encode "DevTools listening on ws://localhost/1\n") =
      [Text.Utf8.encode "DevTools listening on ws://localhost/1", []] := by decide
  have lines : Text.splitOn 10 Sample.drowned.output.flatten =
      [List.replicate 65537 120, Text.Utf8.encode "DevTools listening on ws://localhost/1",
        []] := by
    rw [whole, Text.splitOn_cons free, rest]
  constructor
  · rw [ProcessScript.address?, announced?_readable, lines]
    show firstAddress? [List.replicate 65537 120, _] = _
    rw [firstAddress?_cons, lineAddress?_noise]
    decide
  · have heard : listen Sample.drowned.output Sample.drowned.outputEnds =
        ⟨none, .broken "Separator is found, but chunk is longer than limit"⟩ := by
      rw [listen, lines, listenTo_next, List.length_replicate]
      rfl
    have chosen : (Sample.launch.executable.filter (!·.isEmpty)).or none = some "chrome" := rfl
    obtain ⟨events, runs⟩ := start_eq chosen rfl {} heard
    exact ⟨events, _, runs, nofun⟩

end Launcher

end WebPilot.Browser
