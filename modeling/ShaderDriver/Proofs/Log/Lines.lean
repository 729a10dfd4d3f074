import Mathlib.Data.List.Basic
import ShaderDriver.Proofs.Log.Colours

namespace ShaderDriver.Log

/-! The lines of a console against the lines of the entries: without colours they are the same, and
with colours they are once the colours are deleted. -/

variable {source : String}

theorem label_plain (severity : Severity) : escape ∉ severity.label.toList := by
  cases severity <;> decide

namespace Span

theorem render_uncoloured (colours : Bool) {span : Span} (uncoloured : span.colour = none) :
    span.render colours = span.text := by
  cases colours <;> simp [render, uncoloured]

/-- Of a stretch without escape characters the text is left, in colour or not. -/
theorem withoutColours_render (colours : Bool) {span : Span} (plain : escape ∉ span.text)
    (rest : List Char) :
    withoutColours (span.render colours ++ rest) = span.text ++ withoutColours rest := by
  cases tint : span.colour with
  | none => rw [render_uncoloured colours tint, withoutColours_append plain]
  | some colour =>
      cases colours with
      | false => exact withoutColours_append plain rest
      | true =>
          simp only [render, tint, reopened_of_plain plain, List.append_assoc]
          rw [withoutColours_opening, withoutColours_append plain, withoutColours_reset]

theorem withoutColours_renderAll (colours : Bool) {spans : List Span}
    (plain : ∀ span ∈ spans, escape ∉ span.text) (rest : List Char) :
    withoutColours (spans.flatMap (render colours) ++ rest) =
      spans.flatMap text ++ withoutColours rest := by
  induction spans with
  | nil => rfl
  | cons span others ih =>
      have first := plain span List.mem_cons_self
      have later := ih fun other member => plain other (List.mem_cons_of_mem _ member)
      rw [List.flatMap_cons, List.append_assoc, withoutColours_render colours first, later,
        List.flatMap_cons, List.append_assoc]

theorem renderAll_uncoloured (colours : Bool) {spans : List Span}
    (uncoloured : ∀ span ∈ spans, span.colour = none) :
    spans.flatMap (render colours) = spans.flatMap text :=
  List.flatMap_congr fun span member => render_uncoloured colours (uncoloured span member)

end Span

namespace Console

/-- The line up to the end of the time. -/
def heading (stamp : String) : List Span :=
  [.plain "[", .plain stamp]

/-- The line from there to the end of the source, where the colours are. -/
def tags (severity : Severity) (source : String) : List Span :=
  [.plain "] [", .tinted severity.colour severity.label, .plain "] [", .tinted .blue source]

/-- The line from there on. -/
def body (message : String) (location : Option String) : List Span :=
  [.plain "] ", .plain message] ++
    (match location with
      | some place => [.plain " (", .plain place, .plain ")"]
      | none => []) ++
    [.plain "\n"]

theorem spans_eq (stamp : String) (severity : Severity) (source message : String)
    (location : Option String) :
    spans stamp severity source message location =
      heading stamp ++ (tags severity source ++ body message location) := rfl

theorem heading_uncoloured (stamp : String) : ∀ span ∈ heading stamp, span.colour = none := by
  simp [heading, Span.plain]

theorem body_uncoloured (message : String) (location : Option String) :
    ∀ span ∈ body message location, span.colour = none := by
  cases location <;> simp [body, Span.plain]

theorem tags_plain (severity : Severity) (plain : escape ∉ source.toList) :
    ∀ span ∈ tags severity source, escape ∉ span.text := by
  have opening : escape ≠ '[' := by decide
  have closing : escape ≠ ']' := by decide
  have blank : escape ≠ ' ' := by decide
  simp [tags, Span.plain, Span.tinted, plain, opening, closing, blank, label_plain]

theorem tags_begin (colours : Bool) (severity : Severity) (source : String) :
    ∃ more, (tags severity source).flatMap (Span.render colours) = ']' :: more := by
  cases colours <;> exact ⟨_, rfl⟩

/-- Only what stands between the time and the message is in colour, and it has no colours of its own.
The time may have some: the bracket after it ends them. -/
theorem withoutColours_spans (colours : Bool) (stamp : String) (severity : Severity)
    (plain : escape ∉ source.toList) (message : String) (location : Option String) :
    withoutColours (render colours (spans stamp severity source message location)).toList =
      withoutColours ((heading stamp).flatMap Span.text) ++
        ((tags severity source).flatMap Span.text ++
          withoutColours ((body message location).flatMap Span.text)) := by
  have bracket : stopsColours ']' := by decide
  obtain ⟨more, begins⟩ := tags_begin colours severity source
  rw [render, String.toList_ofList, spans_eq, List.flatMap_append, List.flatMap_append,
    Span.renderAll_uncoloured colours (heading_uncoloured stamp), begins, List.cons_append,
    withoutColours_append_cons bracket, ← List.cons_append, ← begins,
    Span.withoutColours_renderAll colours (tags_plain severity plain),
    Span.renderAll_uncoloured colours (body_uncoloured message location)]

theorem render_ends (colours : Bool) (stamp : String) (severity : Severity) (source message : String)
    (location : Option String) :
    ∃ line, (render colours (spans stamp severity source message location)).toList =
      line ++ ['\n'] := by
  have last : [Span.plain "\n"].flatMap (Span.render colours) = ['\n'] := by
    cases colours <;> rfl
  simp only [render, String.toList_ofList, spans, List.flatMap_append, last]
  exact ⟨_, rfl⟩

theorem render_plain (stamp : String) (severity : Severity) (source message : String)
    (location : Option String) :
    render false (spans stamp severity source message location) =
      "[" ++ stamp ++ "] [" ++ severity.label ++ "] [" ++ source ++ "] " ++ message ++
        (location.map fun place => " (" ++ place ++ ")").getD "" ++ "\n" := by
  apply String.ext
  cases location <;> simp [render, spans, Span.render, Span.plain, Span.tinted]

/-- An entry has a location to show just if the console has a place for it. -/
theorem location_eq_place (entry : Entry) :
    entry.location =
      ((place? entry.file entry.line).map fun place => " (" ++ place ++ ")").getD "" := by
  unfold Entry.location place?
  cases entry.file with
  | none => rfl
  | some file =>
      cases entry.line with
      | none => rfl
      | some line => simp [String.append_assoc]

section Rendering

variable (stamp? : Instant → Option String)

/-- What a console without colours writes for an entry is the line of the entry, from the threshold
upwards. -/
theorem write?_plain (threshold : Severity) (entry : Entry) :
    write? { threshold, colours := false } entry stamp? =
      if entry.severity.atLeast threshold then (entry.format? stamp?).map (· ++ "\n")
      else some "" := by
  unfold write? Entry.format?
  split
  · rw [Option.map_map]
    congr 1
    funext stamp
    change render false _ = _ ++ "\n"
    rw [render_plain, location_eq_place]
  · rfl

/-- There is nothing to write, without being below the threshold, just if there is no line. -/
theorem write?_eq_none (console : Console) (entry : Entry) :
    console.write? entry stamp? = none ↔
      entry.severity.atLeast console.threshold = true ∧ entry.format? stamp? = none := by
  unfold write? Entry.format?
  split
  · next high => simp [high]
  · next low => simp [low]

theorem write?_isSome (console : Console) (entry : Entry) :
    (console.write? entry stamp?).isSome =
      (!entry.severity.atLeast console.threshold || (entry.format? stamp?).isSome) := by
  unfold write? Entry.format?
  cases high : entry.severity.atLeast console.threshold with
  | false => simp
  | true => simp

/-- What is written for a sequence of entries by a writer that goes on after one without a line. -/
def transcript (console : Console) (entries : List Entry) : String :=
  String.join (entries.filterMap fun entry => console.write? entry stamp?)

theorem transcript_cons (console : Console) (entry : Entry) (rest : List Entry) :
    transcript stamp? console (entry :: rest) =
      (console.write? entry stamp?).getD "" ++ transcript stamp? console rest := by
  cases written : console.write? entry stamp? <;> simp [transcript, written]

/-- A writer that stops at an entry without a line has written what stands before it. -/
theorem writeAll_eq (console : Console) (entries : List Entry) :
    console.writeAll stamp? entries =
      transcript stamp? console
        (entries.takeWhile fun entry => (console.write? entry stamp?).isSome) := by
  induction entries with
  | nil => rfl
  | cons entry rest ih =>
      cases written : console.write? entry stamp? with
      | none => simp [writeAll, transcript, written]
      | some text =>
          rw [List.takeWhile_cons_of_pos (by simp [written]), transcript_cons, ← ih]
          simp [writeAll, written]

theorem transcript_plain (threshold : Severity) (entries : List Entry) :
    transcript stamp? { threshold, colours := false } entries =
      String.join (((entries.filter fun entry => entry.severity.atLeast threshold).filterMap
        fun entry => entry.format? stamp?).map (· ++ "\n")) := by
  induction entries with
  | nil => rfl
  | cons entry rest ih =>
      rw [transcript_cons, ih, write?_plain]
      cases high : entry.severity.atLeast threshold with
      | false => simp [high]
      | true => cases line : entry.format? stamp? <;> simp [high, line]

/-- Nothing at all is written, or something that ends with a line. -/
theorem written_ends (console : Console) (entry : Entry) :
    ((console.write? entry stamp?).getD "").toList = [] ∨
      ∃ line, ((console.write? entry stamp?).getD "").toList = line ++ ['\n'] := by
  unfold write?
  split
  · cases stamp? entry.time with
    | none => exact .inl rfl
    | some stamp => exact .inr (render_ends _ _ _ _ _ _)
  · exact .inl rfl

/-- What is written for one entry does not matter for the colours of what is written later. -/
theorem withoutColours_written (console : Console) (entry : Entry) (rest : List Char) :
    withoutColours (((console.write? entry stamp?).getD "").toList ++ rest) =
      withoutColours ((console.write? entry stamp?).getD "").toList ++ withoutColours rest := by
  have newline : stopsColours '\n' := by decide
  have kept (rest : List Char) : withoutColours ('\n' :: rest) = '\n' :: withoutColours rest :=
    withoutColours_cons (by decide)
  rcases written_ends stamp? console entry with nothing | ⟨line, ended⟩
  · rw [nothing, withoutColours_nil, List.nil_append, List.nil_append]
  · rw [ended, List.append_assoc, List.singleton_append, withoutColours_append_cons newline,
      withoutColours_append_cons newline, kept, kept, withoutColours_nil, List.append_assoc,
      List.singleton_append]

theorem withoutColours_write? (colours : Bool) (threshold : Severity) (entry : Entry)
    (plain : entry.severity.atLeast threshold = true → escape ∉ entry.source.toList) :
    withoutColours ((write? { threshold, colours } entry stamp?).getD "").toList =
      withoutColours ((write? { threshold, colours := false } entry stamp?).getD "").toList := by
  unfold write?
  split
  · next high =>
      cases stamp? entry.time with
      | none => rfl
      | some stamp =>
          simp only [Option.map_some, Option.getD_some]
          rw [withoutColours_spans colours stamp entry.severity (plain high),
            withoutColours_spans false stamp entry.severity (plain high)]
  · rfl

theorem withoutColours_transcript (colours : Bool) (threshold : Severity) (entries : List Entry)
    (plain : ∀ entry ∈ entries, entry.severity.atLeast threshold = true →
      escape ∉ entry.source.toList) :
    withoutColours (transcript stamp? { threshold, colours } entries).toList =
      withoutColours (transcript stamp? { threshold, colours := false } entries).toList := by
  induction entries with
  | nil => rfl
  | cons entry rest ih =>
      have first := plain entry List.mem_cons_self
      have later := ih fun other member => plain other (List.mem_cons_of_mem _ member)
      rw [transcript_cons, transcript_cons, String.toList_append, String.toList_append,
        withoutColours_written, withoutColours_written, withoutColours_write? stamp? colours _ _ first,
        later]

/-- For any entries, any threshold and any way in which times are shown, a console without colours
writes the lines of the entries from the threshold upwards, in order, and nothing else. With or without
colours it has no line for an entry just if the entry is not below the threshold and has none itself.
Where no source of what is written has an escape character in it, the colours are all that a console
with colours adds. -/
theorem console_writes_lines_of_entries (threshold : Severity) (entries : List Entry) :
    (transcript stamp? { threshold, colours := false } entries =
      String.join (((entries.filter fun entry => entry.severity.atLeast threshold).filterMap
        fun entry => entry.format? stamp?).map (· ++ "\n"))) ∧
    (∀ colours entry, write? { threshold, colours } entry stamp? = none ↔
      entry.severity.atLeast threshold = true ∧ entry.format? stamp? = none) ∧
    (∀ colours, writeAll { threshold, colours } stamp? entries =
      transcript stamp? { threshold, colours } (entries.takeWhile fun entry =>
        !entry.severity.atLeast threshold || (entry.format? stamp?).isSome)) ∧
    ((∀ entry ∈ entries, entry.severity.atLeast threshold = true →
        escape ∉ entry.source.toList) →
      withoutColours (transcript stamp? { threshold, colours := true } entries).toList =
        withoutColours (transcript stamp? { threshold, colours := false } entries).toList) := by
  refine ⟨transcript_plain stamp? threshold entries, fun colours => write?_eq_none stamp? _,
    fun colours => ?_, withoutColours_transcript stamp? true threshold entries⟩
  rw [writeAll_eq]
  congr 2
  funext entry
  exact write?_isSome stamp? _ entry

end Rendering

/-- An entry with its place, one that is below the threshold, one whose time the calendar does not
cover, and one with neither a source nor a line. Two of them have escape characters to show. -/
def mixedEntries : List Entry :=
  [{ severity := .error, time := ⟨0, 1999999⟩, source := "xgl::Icd", message := "lost \x1b[3"
     file := some "icd.rs", line := some 7 },
    { severity := .debug, time := ⟨0, 0⟩, source := "\x1b[1m", message := "early"
      file := none, line := none },
    { severity := .warn, time := ⟨8210266876800, 0⟩, source := "xgl::Icd", message := "late"
      file := none, line := some 7 },
    { severity := .warn, time := ⟨-62167219201, 0⟩, source := "", message := "old\x1b[0m"
      file := some "icd.rs", line := none }]

theorem mixed_entries_are_written_alike :
    (∀ entry ∈ mixedEntries, entry.severity.atLeast .info = true →
        escape ∉ entry.source.toList) ∧
      transcript Instant.stamp? { threshold := .info, colours := false } mixedEntries =
        "[1970-01-01 00:00:00.001] [ERROR] [xgl::Icd] lost \x1b[3 (icd.rs:7)\n" ++
          "[-0001-12-31 23:59:59.000] [WARN ] [] old\x1b[0m\n" ∧
      withoutColours
          (transcript Instant.stamp? { threshold := .info, colours := true } mixedEntries).toList =
        withoutColours
          (transcript Instant.stamp? { threshold := .info, colours := false } mixedEntries).toList := by
  have plain : ∀ entry ∈ mixedEntries, entry.severity.atLeast .info = true →
      escape ∉ entry.source.toList := by decide
  obtain ⟨_, _, _, coloured⟩ := console_writes_lines_of_entries Instant.stamp? .info mixedEntries
  exact ⟨plain, by decide +kernel, coloured plain⟩

end Console

end ShaderDriver.Log
