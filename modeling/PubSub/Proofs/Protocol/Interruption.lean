import PubSub.Proofs.Protocol.Serving

/-! # Sessions that break off

A writer may fail after some replies. The session then ends at the first reply that it cannot write.

* **`serveLines_lost`** — a line whose reply cannot be written.
* **`serveLines_some_eq_or`** — either all replies can be written, or there is one line whose reply
  is the first that cannot.
* **`serve_none_of_splitLines`**, **`serve_some_of_splitLines`** — the session at this line, without
  the limit and with it.
* **`breaksOffAtOneRequest`** — the session with a limit against the session without. -/

namespace PubSub

variable {settings : RegistrySettings} {clock : Nat → Time}

/-! ## (1) The line that is lost -/

/-- Without room for its reply, a line is **carried out, and the session ends**. -/
theorem serveLines_lost (r : Registry) (index : Nat) {line : String}
    (hline : isBlankLine line = false) (rest : List (List UInt8)) :
    serveLines settings clock (some 0) r index (utf8 line :: rest) =
      ⟨[], (r.exchange settings (clock index) line).after, some .brokenPipe⟩ := by
  rw [serveLines, decodeLine_utf8]
  simp only [hline, Bool.false_eq_true, if_false, if_true]
  rfl

/-- Either the writer takes all replies, and **the session is the one without a limit**; or there is
**a line with exactly as many written lines before it** as there is room for replies. -/
theorem serveLines_some_eq_or (k : Nat) (r : Registry) (index : Nat) (lines : List (List UInt8)) :
    let whole := serveLines settings clock none r index lines
    (whole.replies.length ≤ k ∧ serveLines settings clock (some k) r index lines = whole) ∨
      ∃ passed line rest, lines = passed.map utf8 ++ utf8 line :: rest ∧
        (writtenLines passed).length = k ∧ isBlankLine line = false := by
  intro whole
  induction lines generalizing k r index with
  | nil => exact Or.inl ⟨Nat.zero_le k, rfl⟩
  | cons bytes lines ih =>
    cases hbytes : decodeLine bytes with
    | none =>
      -- A line that is not UTF-8 ends both sessions before there is a reply to write.
      have hfails (capacity : Option Nat) : serveLines settings clock capacity r index
          (bytes :: lines) = ⟨[], r, some .invalidData⟩ := by
        rw [serveLines, hbytes]
      refine Or.inl ⟨?_, (hfails _).trans (hfails _).symm⟩
      rw [show whole = _ from hfails none]
      exact Nat.zero_le k
    | some line =>
      obtain rfl : bytes = utf8 line := decodeLine_eq_some_iff.mp hbytes
      cases hline : isBlankLine line with
      | true =>
        -- Both sessions pass over a blank line, which takes no room.
        rcases ih k r (index + 1) with ⟨hfit, hsame⟩ | ⟨passed, lost, rest, rfl, hcount, hlost⟩
        · refine Or.inl ?_
          rw [show whole = _ from serveLines_blank none r index hline lines,
            serveLines_blank (some k) r index hline]
          exact ⟨hfit, hsame⟩
        · refine Or.inr ⟨line :: passed, lost, rest, rfl, ?_, hlost⟩
          rwa [writtenLines, List.filter_cons_of_neg (by simp [hline])]
      | false =>
        -- A written line takes room; if none is left, it is the line that is looked for.
        cases k with
        | zero => exact Or.inr ⟨[], line, lines, rfl, rfl, hline⟩
        | succ k =>
          rcases ih k (r.exchange settings (clock index) line).after (index + 1) with
            ⟨hfit, hsame⟩ | ⟨passed, lost, rest, rfl, hcount, hlost⟩
          · refine Or.inl ?_
            rw [show whole = _ from serveLines_line none r index hline lines]
            refine ⟨Nat.succ_le_succ hfit, ?_⟩
            exact (serveLines_line (some k) r index hline lines).trans (congrArg _ hsame)
          · refine Or.inr ⟨line :: passed, lost, rest, rfl, ?_, hlost⟩
            rw [writtenLines, List.filter_cons_of_pos (by simp [hline])]
            exact congrArg (· + 1) hcount

/-! ## (2) Sessions -/

/-- The session whose writer takes `k` replies **breaks off at** the exchange `lost`, before which
the lines `passed` have been answered or passed over. -/
structure BreaksOffAt (settings : RegistrySettings) (clock : Nat → Time) (k : Nat) (r : Registry)
    (input : List UInt8) (passed : List String) (lost : Exchange) : Prop where
  /-- The input has these lines first, then the line of the lost exchange, and others behind. -/
  lines : ∃ rest, splitLines input = passed.map utf8 ++ utf8 lost.line :: rest
  /-- As many of the lines before it are written as the writer takes replies. -/
  length_written : (writtenLines passed).length = k
  /-- The line itself is not blank. -/
  line_written : isBlankLine lost.line = false
  /-- It is answered on the registry that the lines before it have left. -/
  exchange : lost = (r.respondLines settings (timedLines clock 0 passed)).1.exchange settings
    (clock passed.length) lost.line
  /-- Without the limit, this is the exchange with the number `k`. -/
  unlimited : (serve settings clock none r input).exchanges[k]? = some lost
  /-- The replies before it are written. -/
  replies : (serve settings clock (some k) r input).replies =
    (serve settings clock none r input).replies.take k
  /-- **Its request is carried out** although the reply is lost, and none after it. -/
  registry : (serve settings clock (some k) r input).registry = lost.after
  failure : (serve settings clock (some k) r input).failure = some .brokenPipe
  /-- **What comes later is not read**, be it UTF-8 or not. -/
  unread {other : List UInt8} {rest : List (List UInt8)}
    (h : splitLines other = passed.map utf8 ++ utf8 lost.line :: rest) :
    serve settings clock (some k) r other = serve settings clock (some k) r input

/-- The session whose writer takes `k` replies, against the one without a limit. -/
structure BreaksOffAtOneRequest (settings : RegistrySettings) (clock : Nat → Time) (k : Nat)
    (r : Registry) (input : List UInt8) : Prop where
  /-- A writer that takes all replies makes no difference. -/
  unbroken (h : (serve settings clock none r input).replies.length ≤ k) :
    serve settings clock (some k) r input = serve settings clock none r input
  /-- Any other breaks the session off. -/
  broken (h : k < (serve settings clock none r input).replies.length) :
    ∃ passed lost, BreaksOffAt settings clock k r input passed lost

/-- Without a limit, a session goes on behind the lines that have been passed. -/
theorem serve_none_of_splitLines {r : Registry} {input : List UInt8} {passed : List String}
    {line : String} {rest : List (List UInt8)}
    (h : splitLines input = passed.map utf8 ++ utf8 line :: rest)
    (hline : isBlankLine line = false) :
    let t := r.answer settings (timedLines clock 0 passed)
    let next := t.registry.exchange settings (clock passed.length) line
    serve settings clock none r input = t.followedBy
      (.after next (serveLines settings clock none next.after (passed.length + 1) rest)) := by
  rw [serve, h]
  refine (serveLines_passed none r 0 passed _).trans ?_
  rw [Nat.zero_add]
  exact congrArg _ (serveLines_line none _ _ hline rest)

/-- With room for the replies to the lines before, **a session ends at the line behind them**. -/
theorem serve_some_of_splitLines {r : Registry} {input : List UInt8} {passed : List String}
    {line : String} {rest : List (List UInt8)}
    (h : splitLines input = passed.map utf8 ++ utf8 line :: rest)
    (hline : isBlankLine line = false) :
    let t := r.answer settings (timedLines clock 0 passed)
    serve settings clock (some (writtenLines passed).length) r input =
      ⟨t.exchanges, (t.registry.exchange settings (clock passed.length) line).after,
        some .brokenPipe⟩ := by
  have hroom : some (writtenLines passed).length =
      (some 0).map (· + (timedLines clock 0 passed).length) := by
    rw [Option.map_some, Nat.zero_add, ← map_snd_timedLines clock 0, List.length_map]
  rw [serve, h, hroom, serveLines_passed, Nat.zero_add, serveLines_lost _ _ hline,
    Transcript.followedBy, List.append_nil]

/-- Where the lines of the input have one with `k` written lines before it, **the session breaks off
there**. -/
theorem breaksOffAt_of_splitLines {k : Nat} {r : Registry} {input : List UInt8}
    {passed : List String} {line : String} {rest : List (List UInt8)}
    (h : splitLines input = passed.map utf8 ++ utf8 line :: rest)
    (hcount : (writtenLines passed).length = k) (hline : isBlankLine line = false) :
    BreaksOffAt settings clock k r input passed
      ((r.respondLines settings (timedLines clock 0 passed)).1.exchange settings
        (clock passed.length) line) := by
  subst hcount
  have hbefore : (r.respondLines settings (timedLines clock 0 passed)).1 =
      (r.answer settings (timedLines clock 0 passed)).registry := by
    rw [Registry.respondLines_eq_answer]
  have hlength : (r.answer settings (timedLines clock 0 passed)).exchanges.length =
      (writtenLines passed).length := by
    rw [← map_snd_timedLines clock 0, List.length_map,
      ← r.length_replies_answer (timedLines clock 0 passed), Transcript.replies, List.length_map]
  -- Both sessions answer the lines in front alike, and part at the reply that is lost.
  have hwhole : serve settings clock none r input = _ := serve_none_of_splitLines h hline
  have hlimited : serve settings clock (some (writtenLines passed).length) r input = _ :=
    serve_some_of_splitLines h hline
  rw [hbefore]
  exact {
    lines := ⟨rest, h⟩
    length_written := rfl
    line_written := hline
    exchange := by rw [hbefore]; rfl
    unlimited := by
      rw [hwhole, Transcript.followedBy, List.getElem?_append_right (Nat.le_of_eq hlength), hlength,
        Nat.sub_self]
      rfl
    replies := by
      rw [hlimited, hwhole, Transcript.replies, Transcript.replies, Transcript.followedBy,
        List.map_append, List.take_left' (by rw [List.length_map, hlength])]
    registry := by rw [hlimited]
    failure := by rw [hlimited]
    unread := fun hother => (serve_some_of_splitLines hother hline).trans hlimited.symm }

/-- **A writer that fails breaks the session off at one request**, whatever the input. -/
theorem breaksOffAtOneRequest (settings : RegistrySettings) (clock : Nat → Time) (k : Nat)
    (r : Registry) (input : List UInt8) : BreaksOffAtOneRequest settings clock k r input := by
  rcases serveLines_some_eq_or k r 0 (splitLines input) with
    ⟨hfit, hsame⟩ | ⟨passed, line, rest, hsplit, hcount, hline⟩
  · exact ⟨fun _ => hsame, fun h => absurd hfit (Nat.not_le.mpr h)⟩
  · have hbreaks : BreaksOffAt settings clock k r input passed _ :=
      breaksOffAt_of_splitLines hsplit hcount hline
    refine ⟨fun h => ?_, fun _ => ⟨passed, _, hbreaks⟩⟩
    -- There is an exchange with the number `k`, so more than `k` replies.
    obtain ⟨hlt, -⟩ := List.getElem?_eq_some_iff.mp hbreaks.unlimited
    rw [Transcript.replies, List.length_map] at h
    exact absurd hlt (Nat.not_lt.mpr h)

/-- The reply to a subscription is lost, and a line follows that is not UTF-8. -/
theorem breaksOffAtOneRequest_subscribe :
    let line := "\x7b\"type\":\"subscribe\",\"client_id\":1,\"titles\":[\"a/b\"]\x7d"
    let input := utf8 ("[]\n \n" ++ line ++ "\n") ++ [0xFF, lineFeed] ++ utf8 "[]\n"
    let session := fun capacity => serve .default (fun n => n) capacity Registry.empty input
    (1 < (session none).replies.length ∧
        (session (some 1)).replies = (session none).replies.take 1 ∧
        (session (some 1)).failure = some .brokenPipe ∧
        (session (some 1)).registry.held 1 "a/b" = some ⟨"/a/b", .plain⟩) ∧
      ((session none).replies.length ≤ 2 ∧ session (some 2) = session none ∧
        (session none).failure = some .invalidData) := by
  intro line input session
  have hlength : (session none).replies.length = 2 := by decide
  obtain ⟨-, hbroken⟩ := breaksOffAtOneRequest .default (fun n => n) 1 Registry.empty input
  obtain ⟨hunbroken, -⟩ := breaksOffAtOneRequest .default (fun n => n) 2 Registry.empty input
  obtain ⟨passed, lost, hbreaks⟩ := hbroken (Nat.lt_of_lt_of_eq (by decide) hlength.symm)
  exact ⟨⟨Nat.lt_of_lt_of_eq (by decide) hlength.symm, hbreaks.replies, hbreaks.failure,
    by decide⟩, Nat.le_of_eq hlength, hunbroken (Nat.le_of_eq hlength), by decide⟩

end PubSub
