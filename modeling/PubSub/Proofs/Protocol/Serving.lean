import PubSub.Proofs.Protocol.Lines
import PubSub.Proofs.Protocol.Replies
import Mathlib.Logic.Relation

/-! # Serving line by line

An input is served line by line: each line that is not blank is answered by one line, and nothing
but the registry is handed on.

* **`timedLines`** — the lines that are not blank, with their times.
* **`Registry.answer`** — the transcript of answering such lines; **`Registry.answer_append`** —
  lines may be answered in two parts.
* **`serveLines_passed`** — while there is room for the replies, to serve lines is to answer them;
  **`serveLines_utf8`** and **`serveLines_invalid`** say so of all lines, and of those up to the
  first one that is not UTF-8.
* **`Rewording`** — blank lines put in, and line ends written in the other way.
* **`servesLineByLine`** — what the parts and the wording of an input mean for the session, and that
  its output is read back as its replies. -/

namespace PubSub

/-! ## (1) Lines and their times -/

/-- The **lines that are not blank**. -/
def writtenLines (lines : List String) : List String := lines.filter fun line => !isBlankLine line

/-- The lines that are not blank, with the **time** that the clock tells at the number of each; the
first line has the number `index`. -/
def timedLines (clock : Nat → Time) (index : Nat) (lines : List String) : List (Time × String) :=
  ((lines.zipIdx index).filter fun p => !isBlankLine p.1).map fun p => (clock p.2, p.1)

section TimedLines

variable {clock clock' : Nat → Time} {index : Nat} {line : String}

/-- A blank line has no time, but it has a number. -/
theorem timedLines_cons_of_isBlankLine (h : isBlankLine line = true) (lines : List String) :
    timedLines clock index (line :: lines) = timedLines clock (index + 1) lines := by
  rw [timedLines, List.zipIdx_cons, List.filter_cons_of_neg (by simp [h]), timedLines]

/-- Any other line is told with the time at its number. -/
theorem timedLines_cons_of_not_isBlankLine (h : isBlankLine line = false) (lines : List String) :
    timedLines clock index (line :: lines) =
      (clock index, line) :: timedLines clock (index + 1) lines := by
  rw [timedLines, List.zipIdx_cons, List.filter_cons_of_pos (by simp [h]), timedLines,
    List.map_cons]

/-- Lines are numbered on in the second part of a text. -/
theorem timedLines_append (clock : Nat → Time) (index : Nat) (lines lines' : List String) :
    timedLines clock index (lines ++ lines') =
      timedLines clock index lines ++ timedLines clock (index + lines.length) lines' := by
  rw [timedLines, List.zipIdx_append, List.filter_append, List.map_append, timedLines, timedLines]

/-- Only the times at the numbers of the lines count. -/
theorem timedLines_congr (h : ∀ n, index ≤ n → clock n = clock' n) (lines : List String) :
    timedLines clock index lines = timedLines clock' index lines := by
  induction lines generalizing index with
  | nil => rfl
  | cons line lines ih =>
    have hrest := ih fun n hn => h n (Nat.le_of_succ_le hn)
    cases hline : isBlankLine line with
    | true =>
      rw [timedLines_cons_of_isBlankLine hline, timedLines_cons_of_isBlankLine hline, hrest]
    | false =>
      rw [timedLines_cons_of_not_isBlankLine hline, timedLines_cons_of_not_isBlankLine hline, hrest,
        h index (Nat.le_refl index)]

/-- A clock that is ahead tells the times of later lines. -/
theorem timedLines_shift (clock : Nat → Time) (index k : Nat) (lines : List String) :
    timedLines (fun n => clock (n + k)) index lines = timedLines clock (index + k) lines := by
  induction lines generalizing index with
  | nil => rfl
  | cons line lines ih =>
    have hrest := ih (index + 1)
    rw [Nat.add_right_comm] at hrest
    cases hline : isBlankLine line with
    | true =>
      rw [timedLines_cons_of_isBlankLine hline, timedLines_cons_of_isBlankLine hline, hrest]
    | false =>
      rw [timedLines_cons_of_not_isBlankLine hline, timedLines_cons_of_not_isBlankLine hline, hrest]

/-- Without their times, these are the written lines. -/
theorem map_snd_timedLines (clock : Nat → Time) (index : Nat) (lines : List String) :
    (timedLines clock index lines).map (·.2) = writtenLines lines := by
  induction lines generalizing index with
  | nil => rfl
  | cons line lines ih =>
    cases hline : isBlankLine line with
    | true =>
      rw [timedLines_cons_of_isBlankLine hline, ih, writtenLines, writtenLines,
        List.filter_cons_of_neg (by simp [hline])]
    | false =>
      rw [timedLines_cons_of_not_isBlankLine hline, List.map_cons, ih, writtenLines, writtenLines,
        List.filter_cons_of_pos (by simp [hline])]

/-- **Every time can be told** at every line that is not blank. -/
theorem exists_clock (index : Nat) {lines : List String} {times : List Time}
    (h : times.length = (writtenLines lines).length) :
    ∃ clock, timedLines clock index lines = times.zip (writtenLines lines) := by
  induction lines generalizing index times with
  | nil => exact ⟨fun _ => 0, by rw [writtenLines, List.filter_nil, List.zip_nil_right]; rfl⟩
  | cons line lines ih =>
    cases hline : isBlankLine line with
    | true =>
      have hwritten : writtenLines (line :: lines) = writtenLines lines :=
        List.filter_cons_of_neg (by simp [hline])
      rw [hwritten] at h ⊢
      obtain ⟨clock, hclock⟩ := ih (index + 1) h
      exact ⟨clock, by rw [timedLines_cons_of_isBlankLine hline, hclock]⟩
    | false =>
      have hwritten : writtenLines (line :: lines) = line :: writtenLines lines :=
        List.filter_cons_of_pos (by simp [hline])
      rw [hwritten] at h ⊢
      obtain ⟨now, times, rfl⟩ := List.exists_cons_of_length_eq_add_one h
      obtain ⟨clock, hclock⟩ := ih (index + 1) (Nat.succ.inj h)
      -- The clock for the lines behind is right at this line, too, once it is set there.
      refine ⟨fun n => if n = index then now else clock n, ?_⟩
      have hbehind : ∀ n, index + 1 ≤ n → (if n = index then now else clock n) = clock n :=
        fun n hn => if_neg (by omega)
      rw [timedLines_cons_of_not_isBlankLine hline, timedLines_congr hbehind, hclock, if_pos rfl,
        List.zip_cons_cons]

end TimedLines

/-! ## (2) Answers -/

/-- The transcript with one more exchange in front. -/
def Transcript.after (first : Exchange) (t : Transcript) : Transcript :=
  { t with exchanges := first :: t.exchanges }

namespace Registry

variable (settings : RegistrySettings)

/-- The exchange of a line at the time `now`. -/
def exchange (r : Registry) (now : Time) (line : String) : Exchange :=
  let (after, reply) := r.respondLine settings now line
  ⟨r, line, after, reply⟩

/-- The transcript of **answering** lines one after the other, each at its own time. -/
def answer (r : Registry) : List (Time × String) → Transcript
  | [] => ⟨[], r, none⟩
  | (now, line) :: lines =>
    .after (r.exchange settings now line) ((r.respondLine settings now line).1.answer lines)

variable {settings}

/-- Answering lines does not fail. -/
@[simp] theorem failure_answer (r : Registry) (lines : List (Time × String)) :
    (r.answer settings lines).failure = none := by
  induction lines generalizing r with
  | nil => rfl
  | cons step lines ih => exact ih _

/-- The answers to lines are the replies to them. -/
theorem respondLines_eq_answer (r : Registry) (lines : List (Time × String)) :
    r.respondLines settings lines =
      ((r.answer settings lines).registry, (r.answer settings lines).replies) := by
  induction lines generalizing r with
  | nil => rfl
  | cons step lines ih =>
    obtain ⟨now, line⟩ := step
    rw [respondLines_cons, ih]
    rfl

/-- **Lines may be answered in two parts**, the second on the registry that the first has left. -/
theorem answer_append (r : Registry) (lines lines' : List (Time × String)) :
    r.answer settings (lines ++ lines') =
      let t := r.answer settings lines
      let u := t.registry.answer settings lines'
      ⟨t.exchanges ++ u.exchanges, u.registry, none⟩ := by
  induction lines generalizing r with
  | nil =>
    rw [List.nil_append, ← r.failure_answer lines']
    rfl
  | cons step lines ih =>
    obtain ⟨now, line⟩ := step
    rw [List.cons_append, answer, ih, answer]
    rfl

/-- Each line is answered **on the registry that the lines before it have left**. -/
theorem getElem?_exchanges_answer (r : Registry) {lines : List (Time × String)} {i : Nat}
    {now : Time} {line : String} (h : lines[i]? = some (now, line)) :
    (r.answer settings lines).exchanges[i]? =
      some ((r.respondLines settings (lines.take i)).1.exchange settings now line) := by
  induction lines generalizing r i with
  | nil => cases h
  | cons step lines ih =>
    cases i with
    | zero => cases h; rfl
    | succ i => exact ih _ h

/-- There is one reply for each line. -/
theorem length_replies_answer (r : Registry) (lines : List (Time × String)) :
    (r.answer settings lines).replies.length = lines.length := by
  induction lines generalizing r with
  | nil => rfl
  | cons step lines ih => exact congrArg Nat.succ (ih _)

end Registry

/-! ## (3) Serving lines -/

/-- The transcript of a session that goes on: first `t`, then `u`. -/
def Transcript.followedBy (t u : Transcript) : Transcript :=
  { u with exchanges := t.exchanges ++ u.exchanges }

section Serving

variable {settings : RegistrySettings} {clock : Nat → Time}

/-- A blank line is passed over. -/
theorem serveLines_blank (capacity : Option Nat) (r : Registry) (index : Nat) {line : String}
    (hline : isBlankLine line = true) (rest : List (List UInt8)) :
    serveLines settings clock capacity r index (utf8 line :: rest) =
      serveLines settings clock capacity r (index + 1) rest := by
  rw [serveLines, decodeLine_utf8]
  exact if_pos hline

/-- A line that is not blank is answered, and takes the room of one reply. -/
theorem serveLines_line (capacity : Option Nat) (r : Registry) (index : Nat) {line : String}
    (hline : isBlankLine line = false) (rest : List (List UInt8)) :
    serveLines settings clock (capacity.map (· + 1)) r index (utf8 line :: rest) =
      .after (r.exchange settings (clock index) line)
        (serveLines settings clock capacity (r.exchange settings (clock index) line).after
          (index + 1) rest) := by
  have hroom : capacity.map (· + 1) ≠ some 0 := by cases capacity <;> simp
  have hleft : (capacity.map (· + 1)).map (· - 1) = capacity := by cases capacity <;> rfl
  rw [serveLines, decodeLine_utf8]
  simp only [hline, hroom, hleft, Bool.false_eq_true, if_false]
  rfl

/-- **While there is room for the replies, lines are answered** as without a limit. -/
theorem serveLines_passed (capacity : Option Nat) (r : Registry) (index : Nat)
    (passed : List String) (rest : List (List UInt8)) :
    serveLines settings clock (capacity.map (· + (timedLines clock index passed).length)) r index
        (passed.map utf8 ++ rest) =
      (r.answer settings (timedLines clock index passed)).followedBy
        (serveLines settings clock capacity
          (r.answer settings (timedLines clock index passed)).registry (index + passed.length)
          rest) := by
  induction passed generalizing r index with
  | nil =>
    have hroom : capacity.map (· + 0) = capacity := by cases capacity <;> rfl
    rw [List.map_nil, List.nil_append]
    exact congrArg (fun c => serveLines settings clock c r index rest) hroom
  | cons line passed ih =>
    -- Only the lines with a time take room, so a blank one leaves the count as it is.
    rw [List.map_cons, List.cons_append, List.length_cons, Nat.add_comm passed.length,
      ← Nat.add_assoc]
    cases hline : isBlankLine line with
    | true => rw [timedLines_cons_of_isBlankLine hline, serveLines_blank _ _ _ hline, ih]
    | false =>
      rw [timedLines_cons_of_not_isBlankLine hline, List.length_cons, Registry.answer]
      have hroom (n : Nat) : capacity.map (· + (n + 1)) = (capacity.map (· + n)).map (· + 1) := by
        cases capacity <;> rfl
      rw [hroom, serveLines_line _ _ _ hline, ih]
      rfl

/-- **To serve lines is to answer them**, if all of them are texts. -/
theorem serveLines_utf8 (r : Registry) (index : Nat) (lines : List String) :
    serveLines settings clock none r index (lines.map utf8) =
      r.answer settings (timedLines clock index lines) := by
  rw [← List.append_nil (lines.map utf8)]
  refine (serveLines_passed none r index lines []).trans ?_
  rw [serveLines, Transcript.followedBy, List.append_nil,
    ← r.failure_answer (timedLines clock index lines)]

/-- **A line that is not UTF-8 ends the session**; the lines before it have been answered. -/
theorem serveLines_invalid (r : Registry) (index : Nat) (lines : List String) {line : List UInt8}
    (hline : decodeLine line = none) (rest : List (List UInt8)) :
    serveLines settings clock none r index (lines.map utf8 ++ line :: rest) =
      { r.answer settings (timedLines clock index lines) with failure := some .invalidData } := by
  refine (serveLines_passed none r index lines (line :: rest)).trans ?_
  rw [serveLines, hline, Transcript.followedBy, List.append_nil]

/-- **To serve a text is to answer its lines.** -/
theorem serve_utf8 (r : Registry) (text : String) :
    serve settings clock none r (utf8 text) =
      r.answer settings (timedLines clock 0 (linesOf text)) := by
  rw [serve, splitLines_utf8, serveLines_utf8]

end Serving

/-! ## (4) The output -/

/-- **The output has one line for each reply**: no reply has a line break in it. -/
theorem linesOf_output (t : Transcript) : linesOf t.output = t.replies.map Reply.line := by
  rw [Transcript.output]
  induction t.replies with
  | nil => rfl
  | cons reply replies ih =>
    have hfeed : '\n' ∉ reply.line.toList := fun h => by
      have hvisible := Reply.visible_of_mem_line h
      revert hvisible
      decide
    have hreturn : reply.line.toList.getLast? ≠ some '\r' := fun h => by
      have hvisible := Reply.visible_of_mem_line (List.mem_of_getLast? h)
      revert hvisible
      decide
    rw [List.map_cons, String.join_cons, (isWhole_append_lineFeed _).linesOf_append,
      linesOf_line hfeed, withoutReturn_of_getLast? hreturn, String.ofList_toList, ih]
    rfl

/-- The output of exchanges in two parts. -/
theorem output_append (t u : Transcript) (last : Registry) (failure : Option SessionFailure) :
    (Transcript.mk (t.exchanges ++ u.exchanges) last failure).output = t.output ++ u.output := by
  have hjoin (xs ys : List String) : String.join (xs ++ ys) = String.join xs ++ String.join ys := by
    induction xs with
    | nil => exact String.empty_append.symm
    | cons x xs ih =>
      rw [List.cons_append, String.join_cons, String.join_cons, ih, String.append_assoc]
  rw [Transcript.output, Transcript.replies, List.map_append, List.map_append, hjoin]
  rfl

/-! ## (5) Rewording -/

/-- One text is a **rewording** of another if it has a blank line more, ends its last line where the
other does not, or ends a line with a carriage return and a line feed where the other has the line
feed only. -/
inductive Rewording : String → String → Prop
  | blankLine {before blank : String} (after : String) (hbefore : IsWhole before)
    (hline : '\n' ∉ blank.toList) (hblank : isBlankLine blank = true) :
    Rewording (before ++ after) (before ++ (blank ++ "\n") ++ after)
  | blankEnd {before blank : String} (hbefore : IsWhole before) (hline : '\n' ∉ blank.toList)
    (hblank : isBlankLine blank = true) : Rewording before (before ++ blank)
  | lineFeed {text : String} (h : text.toList.getLast? ≠ some '\r') : Rewording text (text ++ "\n")
  | carriageReturn {before : String} (after : String) (h : before.toList.getLast? ≠ some '\r') :
    Rewording (before ++ "\n" ++ after) (before ++ "\r\n" ++ after)

/-- The written lines of two parts are those of the first and those of the second. -/
theorem writtenLines_append (lines lines' : List String) :
    writtenLines (lines ++ lines') = writtenLines lines ++ writtenLines lines' := by
  rw [writtenLines, List.filter_append, writtenLines, writtenLines]

/-- A blank line alone leaves no written line. -/
theorem writtenLines_singleton {line : String} (h : isBlankLine line = true) :
    writtenLines [line] = [] := by
  rw [writtenLines, List.filter_singleton, h]
  rfl

/-- A blank line stays blank without its carriage return. -/
theorem isBlankLine_withoutReturn {line : String} (h : isBlankLine line = true) :
    isBlankLine (String.ofList (withoutReturn line.toList)) = true := by
  have hsubset : withoutReturn line.toList ⊆ line.toList := by
    rw [withoutReturn]
    split
    · exact (List.dropLast_sublist _).subset
    · exact List.Subset.refl _
  rw [isBlankLine, List.all_eq_true] at h ⊢
  rw [String.toList_ofList]
  exact fun c hc => h c (hsubset hc)

/-- The last line of a text that does not end with a carriage return does not, either. -/
theorem getLast?_of_append {whole last : String}
    (h : (whole ++ last).toList.getLast? ≠ some '\r') : last.toList.getLast? ≠ some '\r' := by
  intro hlast
  rw [String.toList_append, List.getLast?_append, hlast, Option.some_or] at h
  exact h rfl

/-- A line feed at the end ends the last line, or makes an empty one. -/
theorem writtenLines_lineFeed {text : String} (h : text.toList.getLast? ≠ some '\r') :
    writtenLines (linesOf text) = writtenLines (linesOf (text ++ "\n")) := by
  obtain ⟨whole, last, hwhole, hlast, rfl⟩ := exists_isWhole_append text
  have hfeed : whole ++ last ++ "\n" = whole ++ (last ++ "\n") := String.append_assoc
  rw [hfeed, hwhole.linesOf_append, hwhole.linesOf_append, linesOf_line hlast, linesOf_last hlast,
    withoutReturn_of_getLast? (getLast?_of_append h), String.ofList_toList, writtenLines_append,
    writtenLines_append]
  by_cases hempty : last = ""
  · rw [if_pos hempty, hempty]
    rfl
  · rw [if_neg hempty]

/-- A carriage return in front of its line feed does not belong to the line. -/
theorem linesOf_carriageReturn {before : String} (h : before.toList.getLast? ≠ some '\r') :
    linesOf (before ++ "\r\n") = linesOf (before ++ "\n") := by
  obtain ⟨whole, last, hwhole, hlast, rfl⟩ := exists_isWhole_append before
  have hreturn : '\n' ∉ (last ++ "\r").toList := by
    rw [String.toList_append, List.mem_append]
    exact fun hmem => hmem.elim hlast (by decide)
  have hline : (last ++ "\r").toList = last.toList ++ ['\r'] := String.toList_append
  have hbreak : whole ++ last ++ "\r\n" = whole ++ (last ++ "\r" ++ "\n") := by
    rw [String.append_assoc, String.append_assoc]
    rfl
  have hfeed : whole ++ last ++ "\n" = whole ++ (last ++ "\n") := String.append_assoc
  rw [hbreak, hfeed, hwhole.linesOf_append, hwhole.linesOf_append, linesOf_line hreturn,
    linesOf_line hlast, hline, withoutReturn_append_return,
    withoutReturn_of_getLast? (getLast?_of_append h)]

/-- A text is whole once a line break is put behind it. -/
theorem isWhole_append_break (text : String) : IsWhole (text ++ "\r\n") := by
  have h := isWhole_append_lineFeed (text ++ "\r")
  rwa [String.append_assoc] at h

/-- **A rewording leaves the written lines as they are.** -/
theorem Rewording.writtenLines_eq {text text' : String} (h : Rewording text text') :
    writtenLines (linesOf text) = writtenLines (linesOf text') := by
  cases h with
  | @blankLine before blank after hbefore hline hblank =>
    have hmiddle := isWhole_append_lineFeed blank
    rw [hbefore.linesOf_append, (hbefore.append hmiddle).linesOf_append, hbefore.linesOf_append,
      linesOf_line hline, writtenLines_append, writtenLines_append, writtenLines_append,
      writtenLines_singleton (isBlankLine_withoutReturn hblank), List.append_nil]
  | @blankEnd _ blank hbefore hline hblank =>
    rw [hbefore.linesOf_append, linesOf_last hline, writtenLines_append]
    split
    · exact (List.append_nil _).symm
    · rw [writtenLines_singleton hblank, List.append_nil]
  | lineFeed hreturn => exact writtenLines_lineFeed hreturn
  | carriageReturn after hreturn =>
    rw [(isWhole_append_lineFeed _).linesOf_append, (isWhole_append_break _).linesOf_append,
      linesOf_carriageReturn hreturn]

/-! ## (6) Sessions -/

/-- An input is **served line by line**. -/
structure ServesLineByLine (settings : RegistrySettings) (r : Registry) : Prop where
  /-- A text is served to its end: there is one reply for each line that is not blank, and the
  replies and the registry are those of answering these lines one after the other. -/
  text (clock : Nat → Time) (text : String) :
    let t := serve settings clock none r (utf8 text)
    t.failure = none ∧ t.replies.length = (writtenLines (linesOf text)).length ∧
      r.respondLines settings (timedLines clock 0 (linesOf text)) = (t.registry, t.replies)
  /-- Each of these lines is answered on the registry that the lines before it have left. -/
  exchange (clock : Nat → Time) (text : String) {i : Nat} {now : Time} {line : String}
    (h : (timedLines clock 0 (linesOf text))[i]? = some (now, line)) :
    let before := (r.respondLines settings ((timedLines clock 0 (linesOf text)).take i)).1
    (serve settings clock none r (utf8 text)).exchanges[i]? =
      some (before.exchange settings now line)
  /-- The output has one line for each reply. -/
  output (clock : Nat → Time) (input : List UInt8) :
    let t := serve settings clock none r input
    linesOf t.output = t.replies.map Reply.line
  /-- Each of its lines is read as the object of its reply, and every reply is faithful, if the
  times of the clock and of the registry fit 64 bits, and so do the counts before each exchange. -/
  faithful (clock : Nat → Time) (input : List UInt8) (hclock : ∀ n, isSigned (clock n) = true)
    (htimed : r.IsTimed)
    (hcounts : ∀ e ∈ (serve settings clock none r input).exchanges, e.before.CountsFit) :
    let t := serve settings clock none r input
    (linesOf t.output).map (fun line => Json.parse? line.toList) =
        t.replies.map (fun reply => some reply.toJson) ∧
      ∀ reply ∈ t.replies, reply.IsFaithful
  /-- Whole lines may be served first, and the rest after them. -/
  split (clock : Nat → Time) {first : String} (h : IsWhole first) (second : String) :
    let t := serve settings clock none r (utf8 first)
    let later := fun n => clock (n + (linesOf first).length)
    let u := serve settings later none t.registry (utf8 second)
    let whole := serve settings clock none r (utf8 (first ++ second))
    whole.exchanges = t.exchanges ++ u.exchanges ∧ whole.output = t.output ++ u.output ∧
      whole.registry = u.registry
  /-- Rewordings are served alike: they have the same written lines, at which clocks can tell the
  same times; and then everything is the same. -/
  reworded {text text' : String} (h : Relation.EqvGen Rewording text text') :
    writtenLines (linesOf text) = writtenLines (linesOf text') ∧
      (∀ clock, ∃ clock', timedLines clock' 0 (linesOf text') = timedLines clock 0 (linesOf text)) ∧
      ∀ clock clock', timedLines clock' 0 (linesOf text') = timedLines clock 0 (linesOf text) →
        serve settings clock' none r (utf8 text') = serve settings clock none r (utf8 text)
  /-- Where a line is not UTF-8, the whole lines before the first such line are served, and the
  session fails. -/
  invalid (clock : Nat → Time) {input : List UInt8}
    (h : ∃ line ∈ splitLines input, decodeLine line = none) :
    ∃ text rest line lines, IsWhole text ∧ input = utf8 text ++ rest ∧
      splitLines input = (linesOf text).map utf8 ++ line :: lines ∧ decodeLine line = none ∧
      serve settings clock none r input =
        { serve settings clock none r (utf8 text) with failure := some .invalidData }

/-- **Every input is served line by line**, by any registry and with any settings. -/
theorem servesLineByLine (settings : RegistrySettings) (r : Registry) :
    ServesLineByLine settings r where
  text clock text := by
    simp only [serve_utf8]
    refine ⟨Registry.failure_answer r _, ?_, Registry.respondLines_eq_answer r _⟩
    rw [Registry.length_replies_answer, ← map_snd_timedLines clock 0, List.length_map]
  exchange clock text i now line h := by
    simp only [serve_utf8]
    exact Registry.getElem?_exchanges_answer r h
  output clock input := linesOf_output _
  faithful clock input hclock htimed hcounts := by
    intro t
    -- Every line keeps the times in the registry within 64 bits.
    have hreplies : ∀ reply ∈ t.replies, reply.IsFaithful := by
      have hexchanges := (serve_induction
        (fun r n line (h : r.IsTimed) => h.respondLine (hclock n) settings line)
        none htimed input).2
      refine List.forall_mem_map.mpr fun e he => ?_
      obtain ⟨hbefore, -, hcarried⟩ := hexchanges e he
      exact Registry.isFaithful_reply hcarried hbefore (hcounts e he)
    refine ⟨?_, hreplies⟩
    rw [linesOf_output, List.map_map]
    exact List.map_congr_left fun reply hreply => (hreplies reply hreply).parse
  split clock first h second := by
    simp only [serve_utf8, h.linesOf_append, timedLines_append, timedLines_shift,
      Registry.answer_append]
    exact ⟨trivial, output_append _ _ _ _, trivial⟩
  reworded {text text'} h := by
    have hwritten : writtenLines (linesOf text) = writtenLines (linesOf text') := by
      induction h with
      | rel _ _ h => exact h.writtenLines_eq
      | refl _ => rfl
      | symm _ _ _ ih => exact ih.symm
      | trans _ _ _ _ _ ih ih' => exact ih.trans ih'
    refine ⟨hwritten, fun clock => ?_, fun clock clock' htimed => ?_⟩
    · -- The other clock tells the times of this one at the same written lines.
      have hlength : ((timedLines clock 0 (linesOf text)).map (·.1)).length =
          (writtenLines (linesOf text')).length := by
        rw [← hwritten, ← map_snd_timedLines clock 0, List.length_map, List.length_map]
      obtain ⟨clock', hclock'⟩ := exists_clock 0 hlength
      refine ⟨clock', hclock'.trans ?_⟩
      exact (List.zip_of_prod rfl ((map_snd_timedLines clock 0 _).trans hwritten)).symm
    · rw [serve_utf8, serve_utf8, htimed]
  invalid clock input h := by
    rcases exists_utf8_or_invalid input with
      ⟨text, rfl⟩ | ⟨text, rest, line, lines, hwhole, rfl, hrest, hline⟩
    · -- All lines of a text are UTF-8.
      obtain ⟨line, hmem, hline⟩ := h
      rw [splitLines_utf8, List.mem_map] at hmem
      obtain ⟨text, -, rfl⟩ := hmem
      rw [decodeLine_utf8] at hline
      cases hline
    · have hsplit : splitLines (utf8 text ++ rest) = (linesOf text).map utf8 ++ line :: lines := by
        rw [hwhole.splitLines_append, hrest]
      refine ⟨text, rest, line, lines, hwhole, rfl, hsplit, hline, ?_⟩
      rw [serve, hsplit, serveLines_invalid r 0 _ hline, serve_utf8]

/-- A client subscribes, with a carriage return at the end of its line; a blank line follows, and a
question for the subscribers, which the registry answers that the first line has left; and then a
line that is not UTF-8. -/
theorem servesLineByLine_mixed :
    let answer := fun clock input => serve .default clock none Registry.empty input
    let clock : Nat → Time := fun n => if n < 2 then 3 else 5
    let subscribe := "\x7b\"type\":\"subscribe\",\"client_id\":1,\"titles\":[\"a/b\"]\x7d"
    let question :=
      "\x7b\"type\":\"topic_subscribers\",\"title\":\"/a/b/\",\"start\":0,\"end\":9\x7d"
    let first := subscribe ++ "\r\n"
    let second := "\t \n" ++ (question ++ "\n")
    let t := answer clock (utf8 (first ++ second))
    let invalid := utf8 (first ++ second) ++ [0xFF, lineFeed] ++ utf8 second
    (timedLines clock 0 (linesOf (first ++ second)) = [(3, subscribe), (5, question)] ∧
        t.exchanges[1]?.map (·.reply) = some (.subscriptions ⟨1, [⟨1, "/a/b", 3⟩]⟩)) ∧
      ((∀ e ∈ t.exchanges, e.before.CountsFit) ∧
        ∀ reply ∈ t.replies, reply.IsFaithful) ∧
      (IsWhole first ∧ t.output = (answer clock (utf8 first)).output ++
        (serve .default (fun n => clock (n + (linesOf first).length)) none
          (answer clock (utf8 first)).registry (utf8 second)).output) ∧
      (Relation.EqvGen Rewording (subscribe ++ "\n" ++ (question ++ "\n")) (first ++ second) ∧
        ∃ clock', t = answer clock' (utf8 (subscribe ++ "\n" ++ (question ++ "\n")))) ∧
      (∃ line ∈ splitLines invalid, decodeLine line = none) ∧
        (answer clock invalid).failure = some .invalidData := by
  intro answer clock subscribe question first second t invalid
  have hserves := servesLineByLine .default Registry.empty
  have hlines : timedLines clock 0 (linesOf (first ++ second)) =
      [(3, subscribe), (5, question)] := by decide +kernel
  have hanswer : t.exchanges[1]?.map (·.reply) = some (.subscriptions ⟨1, [⟨1, "/a/b", 3⟩]⟩) := by
    decide +kernel
  have hcounts : ∀ e ∈ t.exchanges, e.before.CountsFit := by decide +kernel
  have hclock : ∀ n, isSigned (clock n) = true := fun n => by
    simp only [clock]
    split <;> decide
  obtain ⟨-, hfaithful⟩ :=
    hserves.faithful clock (utf8 (first ++ second)) hclock Registry.isTimed_empty hcounts
  have hwhole : IsWhole first := isWhole_append_break subscribe
  -- First the line end is written in the other way, and then the blank line is put in.
  have hreturn : Rewording (subscribe ++ "\n" ++ (question ++ "\n"))
      (first ++ (question ++ "\n")) :=
    @Rewording.carriageReturn subscribe (question ++ "\n") (by decide +kernel)
  have hblank : Rewording (first ++ (question ++ "\n")) (first ++ second) := by
    have hsecond : first ++ ("\t " ++ "\n") ++ (question ++ "\n") = first ++ second :=
      String.append_assoc
    rw [← hsecond]
    exact .blankLine (question ++ "\n") hwhole (by decide) (by decide)
  have hreworded : Relation.EqvGen Rewording (subscribe ++ "\n" ++ (question ++ "\n"))
      (first ++ second) := .trans _ _ _ (.rel _ _ hreturn) (.rel _ _ hblank)
  have hinvalid : ∃ line ∈ splitLines invalid, decodeLine line = none :=
    ⟨[0xFF], by decide +kernel, by decide⟩
  obtain ⟨-, htimed, hsame⟩ := hserves.reworded (.symm _ _ hreworded)
  obtain ⟨clock', hclock'⟩ := htimed clock
  obtain ⟨_, _, _, _, -, -, -, -, hfails⟩ := hserves.invalid clock hinvalid
  refine ⟨⟨hlines, hanswer⟩, ⟨hcounts, hfaithful⟩,
    ⟨hwhole, (hserves.split clock hwhole second).2.1⟩,
    ⟨hreworded, clock', (hsame clock clock' hclock').symm⟩, hinvalid, ?_⟩
  simp only [answer, hfails]

end PubSub
