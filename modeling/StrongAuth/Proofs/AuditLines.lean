import StrongAuth.Event.Audit
import StrongAuth.Proofs.History
import StrongAuth.Proofs.RoundTrips

/-! # Lines of the audit trail

Main statement: a JSON line holds no control character and decodes to its time and its event, so
a file holds one line for each event. A summary shows texts of its event as they are: it breaks
where these break, and a single event can make the file of any summaries. -/

namespace StrongAuth

/-! ## Lines of a file -/

namespace Audit

def breaks (text : String) : Nat :=
  text.toList.count '\n'

theorem breaks_append (left right : String) : breaks (left ++ right) = breaks left + breaks right := by
  simp [breaks]

theorem length_splitOn (chars : List Char) :
    (chars.splitOn '\n').length = chars.count '\n' + 1 := by
  induction chars with
  | nil => rfl
  | cons char chars induction =>
      rw [List.splitOn_cons_eq_if_modifyHead, List.count_cons]
      split <;> simp [induction]

theorem fileText_cons (line : String) (lines : List String) :
    fileText (line :: lines) = line ++ "\n" ++ fileText lines := by
  simp [fileText, ← String.toList_inj]

/-- A file falls into the pieces of its lines, and nothing follows the last break. -/
theorem splitOn_fileText (lines : List String) : (fileText lines).toList.splitOn '\n' =
    (lines.flatMap fun line => line.toList.splitOn '\n') ++ [[]] := by
  induction lines with
  | nil => rfl
  | cons line lines induction =>
      have chars : (fileText (line :: lines)).toList =
          line.toList ++ '\n' :: (fileText lines).toList := by
        simp [fileText_cons]
      rw [chars, List.splitOn_append_cons_self, induction, List.flatMap_cons, List.append_assoc]

theorem fileLines_fileText (lines : List String) : fileLines (fileText lines) =
    (lines.flatMap fun line => line.toList.splitOn '\n').map
      fun piece => String.ofList (dropReturn piece) := by
  simp [fileLines, splitOn_fileText]

/-- A file has a line for each line that was appended, and one more for each break in them. -/
theorem length_fileLines (lines : List String) :
    (fileLines (fileText lines)).length = (lines.map fun line => breaks line + 1).sum := by
  rw [fileLines_fileText, List.length_map]
  induction lines with
  | nil => rfl
  | cons line lines induction =>
      rw [List.flatMap_cons, List.length_append, length_splitOn, induction]
      rfl

/-- A text without control characters. -/
def Printable (chars : List Char) : Prop :=
  ∀ char ∈ chars, 32 ≤ char.toNat

instance (chars : List Char) : Decidable (Printable chars) :=
  List.decidableBAll (fun char : Char => 32 ≤ char.toNat) chars

theorem Printable.cons {char : Char} {chars : List Char} (first : 32 ≤ char.toNat)
    (rest : Printable chars) : Printable (char :: chars) := by
  intro other member
  rcases List.mem_cons.mp member with rfl | member
  · exact first
  · exact rest other member

theorem Printable.append {left right : List Char} (first : Printable left)
    (rest : Printable right) : Printable (left ++ right) := by
  intro other member
  rcases List.mem_append.mp member with member | member
  · exact first other member
  · exact rest other member

theorem Printable.ne {chars : List Char} (printable : Printable chars) {control : Char}
    (small : control.toNat < 32) : control ∉ chars := fun member =>
  Nat.not_lt_of_le (printable control member) small

/-- Lines without control characters are found as they were appended. -/
theorem fileLines_of_printable {lines : List String}
    (printable : ∀ line ∈ lines, Printable line.toList) : fileLines (fileText lines) = lines := by
  rw [fileLines_fileText]
  induction lines with
  | nil => rfl
  | cons line lines induction =>
      have first := printable line List.mem_cons_self
      have unreturned : line.toList.getLast? ≠ some '\r' := fun last =>
        first.ne (by decide) (List.mem_of_getLast? last)
      rw [List.flatMap_cons, List.splitOn_eq_singleton (first.ne (by decide)), List.singleton_append,
        List.map_cons, induction fun other later => printable other (List.mem_cons_of_mem _ later),
        dropReturn, if_neg unreturned, String.ofList_toList]

end Audit

/-! ## Printable JSON -/

namespace Json

open Audit

theorem le_digitChar (digit : Nat) : 32 ≤ (Decimal.digitChar digit).toNat := by
  rw [Decimal.toNat_digitChar]
  omega

theorem printable_digits (number : Nat) : Printable (Decimal.digits number) := by
  fun_induction Decimal.digits number with
  | case1 number _ => simpa [Printable] using le_digitChar number
  | case2 number _ induction =>
      intro char member
      rcases List.mem_append.mp member with member | member
      · exact induction char member
      · exact List.mem_singleton.mp member ▸ le_digitChar number

theorem printable_writeChar (char : Char) : Printable (writeChar char) := by
  have digit : ∀ small < 16, 32 ≤ (Hexadecimal.lowerDigit small).toNat := by decide
  unfold writeChar
  repeat' split
  all_goals simp only [Printable, List.mem_cons, List.not_mem_nil, or_false, forall_eq_or_imp,
    forall_eq]
  · decide
  · decide
  · decide
  · decide
  · decide
  · decide
  · decide
  · next small =>
      exact ⟨by decide, by decide, by decide, by decide, digit _ (by omega), digit _ (by omega)⟩
  · omega

theorem printable_writeText (text : String) : Printable (writeText text) := by
  intro char member
  simp only [writeText, List.mem_cons, List.mem_append, List.mem_flatMap, List.not_mem_nil,
    or_false] at member
  rcases member with rfl | ⟨source, _, written⟩ | rfl
  · decide
  · exact printable_writeChar source char written
  · decide

mutual

theorem printable_write : ∀ json : Json, Printable (write json)
  | .null | .bool true | .bool false => by decide
  | .number (.ofNat count) => printable_digits count
  | .number (.negSucc predecessor) => .cons (by decide) (printable_digits (predecessor + 1))
  | .text value => printable_writeText value
  | .array [] | .object [] => by decide
  | .array (item :: items) =>
      .cons (by decide) (.append (printable_write item) (printable_writeItems items))
  | .object ((name, value) :: members) =>
      .cons (by decide) (.append (printable_writeText name) (.cons (by decide)
        (.append (printable_write value) (printable_writeMembers members))))

theorem printable_writeItems : ∀ items : List Json, Printable (writeItems items)
  | [] => by decide
  | item :: items =>
      .cons (by decide) (.append (printable_write item) (printable_writeItems items))

theorem printable_writeMembers : ∀ members : List (String × Json), Printable (writeMembers members)
  | [] => by decide
  | (name, value) :: members =>
      .cons (by decide) (.append (printable_writeText name) (.cons (by decide)
        (.append (printable_write value) (printable_writeMembers members))))

end

end Json

/-! ## JSON lines -/

namespace Audit

theorem rearranged_sortMembers (json : Json) : json.Rearranged (sortMembers json) := by
  unfold sortMembers
  split
  · exact .of_perm (List.mergeSort_perm _ _).symm
  · exact .refl _

/-- What a JSON line tells. -/
def entry : Json.Shape (Event × Time.Timestamp) :=
  Prod.mk <$> .require "event" <*> .require "timestamp"

theorem reads_offsetText (now : Time.Timestamp) {json : Json}
    (same : Json.Rearranged (.text now.offsetText) json) :
    Codec.reader (.ofJson json) = .ok now := by
  rw [Codec.reads_text same]
  simp [Codec.reader, Json.Raw.ofJson, Json.Reader.text, now.readLenient_offsetText, bind,
    Except.bind, pure, Except.pure]

theorem decode_structured (now : Time.Timestamp) (event : Event) :
    Json.decode entry.reader (line true now event) = .ok (event, now) := by
  let written := Json.object [("event", Codec.toJson event), ("timestamp", .text now.offsetText)]
  let sorted := Json.object
    [("event", sortMembers (Codec.toJson event)), ("timestamp", .text now.offsetText)]
  have fits : written.Fits := ⟨LawfulCodec.fits event, trivial, trivial⟩
  have same : written.Rearranged sorted :=
    .object (.cons (rearranged_sortMembers _) (.cons (.refl _) .nil)) (.refl _)
  have reads : entry.reader (.ofJson sorted) = .ok (event, now) := by
    refine Json.Shape.reader_object ?_ ?_ ?_ same
    · simp
    · exact fun _ listed => listed
    intro found holds
    exact (Json.Shape.Builds.map Prod.mk (.require holds rfl)).seq
      (.ofWritten holds rfl (reads_offsetText now))
  change Json.decode entry.reader sorted.compact = _
  rw [Json.decode_compact _ (same.fits fits), reads]

theorem printable_structured (now : Time.Timestamp) (event : Event) :
    Printable (line true now event).toList := by
  simp only [line, structuredLine, Json.compact, if_true, String.toList_ofList]
  exact Json.printable_write _

end Audit

/-! ## Summaries -/

namespace Event

/-- The texts of an event that its summary shows. -/
def shown : Event → List String
  | .created authorisation parent approach => [authorisation, parent, approach]
  | .statusChanged authorisation _ earlier later => [authorisation, earlier, later]
  | .refused authorisation _ message => [authorisation, message]
  | .expired authorisation parent => [authorisation, parent]
  | .parentChanged parent earlier later => [parent, earlier, later]

/-- How often the texts break that a summary shows. -/
def breaks (event : Event) : Nat :=
  (event.shown.map Audit.breaks).sum

theorem breaks_summary (event : Event) : Audit.breaks event.summary = event.breaks := by
  have word (kind : RefusalKind) : Audit.breaks (Vocabulary.word kind) = 0 := by
    cases kind <;> rfl
  have quoted : Audit.breaks " created for " = 0 ∧ Audit.breaks " (" = 0 ∧ Audit.breaks ")" = 0 ∧
      Audit.breaks " sca status " = 0 ∧ Audit.breaks " -> " = 0 ∧ Audit.breaks " refused " = 0 ∧
      Audit.breaks ": " = 0 ∧ Audit.breaks " of " = 0 ∧ Audit.breaks " expired" = 0 ∧
      Audit.breaks " status " = 0 := by decide
  cases event <;> simp [summary, breaks, shown, Audit.breaks_append, word, quoted, Nat.add_assoc]

/-- The event with a text in front of what its summary shows first. -/
def prefixed (text : String) : Event → Event
  | .created authorisation parent approach => .created (text ++ authorisation) parent approach
  | .statusChanged authorisation parent earlier later =>
      .statusChanged (text ++ authorisation) parent earlier later
  | .refused authorisation kind message => .refused (text ++ authorisation) kind message
  | .expired authorisation parent => .expired (text ++ authorisation) parent
  | .parentChanged parent earlier later => .parentChanged (text ++ parent) earlier later

theorem summary_prefixed (text : String) (event : Event) :
    (event.prefixed text).summary = text ++ event.summary := by
  cases event <;> simp [prefixed, summary, String.append_assoc]

end Event

namespace Audit

theorem printable_of_digits {chars : List Char}
    (digits : ∀ char ∈ chars, Decimal.isDigit char = true) : Printable chars := by
  intro char member
  have digit := digits char member
  simp only [Decimal.isDigit, Decimal.digitValue?, Option.isSome_ite] at digit
  omega

theorem printable_fixed (width number : Nat) : Printable (Decimal.fixed width number) :=
  printable_of_digits (Decimal.isDigit_of_mem_fixed width number)

theorem printable_writeYear (year : Int) : Printable (Time.writeYear year) := by
  unfold Time.writeYear
  split
  · exact printable_fixed 4 year.toNat
  · refine .cons ?_ (printable_of_digits (Decimal.isDigit_of_mem_padded 4 year.natAbs))
    split <;> decide

theorem printable_millisText (now : Time.Timestamp) : Printable now.millisText.toList := by
  rw [Time.Timestamp.millisText, String.toList_ofList, Time.Timestamp.write_clock_append]
  exact .append (printable_writeYear _) <| .cons (by decide) <| .append (printable_fixed 2 _) <|
    .cons (by decide) <| .append (printable_fixed 2 _) <| .cons (by decide) <|
    .append (printable_fixed 2 _) <| .cons (by decide) <| .append (printable_fixed 2 _) <|
    .cons (by decide) <| .append (printable_fixed 2 _) <|
    .append (.cons (by decide) (printable_fixed 3 _)) (by decide)

theorem breaks_millisText (now : Time.Timestamp) : breaks now.millisText = 0 :=
  List.count_eq_zero_of_not_mem ((printable_millisText now).ne (by decide))

theorem breaks_plain (now : Time.Timestamp) (event : Event) :
    breaks (line false now event) = event.breaks := by
  have bracket : breaks "[" = 0 := rfl
  have closing : breaks "] " = 0 := rfl
  simp [line, plainLine, breaks_append, breaks_millisText, bracket, closing, event.breaks_summary]

theorem breaks_structured (now : Time.Timestamp) (event : Event) :
    breaks (line true now event) = 0 :=
  List.count_eq_zero_of_not_mem ((printable_structured now event).ne (by decide))

/-- A line is unbroken if it is JSON or if no text breaks that its summary shows. -/
theorem breaks_line_eq_zero_iff (structured : Bool) (now : Time.Timestamp) (event : Event) :
    breaks (line structured now event) = 0 ↔
      structured = true ∨ ∀ text ∈ event.shown, '\n' ∉ text.toList := by
  cases structured with
  | true => simp [breaks_structured]
  | false =>
      rw [breaks_plain, Event.breaks, List.sum_eq_zero_iff_forall_eq_nat]
      simp [breaks, List.count_eq_zero]

/-- A file has as many lines as appended if none of them breaks. -/
theorem length_fileLines_eq_iff (lines : List String) :
    (fileLines (fileText lines)).length = lines.length ↔ ∀ line ∈ lines, breaks line = 0 := by
  have total : (lines.map fun line => breaks line + 1).sum =
      (lines.map breaks).sum + lines.length := by
    simp [List.sum_map_add]
  rw [length_fileLines, total, Nat.add_eq_right, List.sum_eq_zero_iff_forall_eq_nat,
    List.forall_mem_map]

/-- The summary of one event that reads as the summaries of two. -/
theorem fileText_forged (now later : Time.Timestamp) (first second : Event) :
    fileText [line false now
      (second.prefixed (first.summary ++ "\n" ++ "[" ++ later.millisText ++ "] "))] =
      fileText [line false now first, line false later second] := by
  simp [fileText, line, plainLine, Event.summary_prefixed]

/-- Every file of summaries is the file of a single event. -/
theorem exists_forged (now : Time.Timestamp) (event : Event)
    (entries : List (Time.Timestamp × Event)) :
    ∃ forged, fileText [line false now forged] =
      fileText (line false now event :: entries.map fun entry => line false entry.1 entry.2) := by
  induction entries generalizing now event with
  | nil => exact ⟨event, rfl⟩
  | cons next entries induction =>
      rcases induction next.1 next.2 with ⟨second, same⟩
      refine ⟨_, (fileText_forged now next.1 event second).trans ?_⟩
      rw [fileText_cons, same]
      exact (fileText_cons _ _).symm

/-- Whoever asks for an authorisation that nobody knows is told so by a single event, which shows
the id that was asked for twice. -/
theorem told_of_unknown (deployment : Deployment) {world : World MemoryStore} {id : String}
    (unknown : world.store.record? id = none) (request : Request) (now : Time.Timestamp) :
    ∃ event, (deployment.perform ⟨.update id request, now⟩ world).2.events =
      world.events ++ [event] ∧ event.breaks = 2 * breaks id := by
  rcases Node.runAction_update deployment.partner deployment.node id request now world
    with ⟨busy, idle, ran⟩
  have process : World.runAction deployment.partner (deployment.node.process id request now)
      { world with locks := busy } =
        (.error (.refused (.authorisationUnknown id)), { world with locks := busy }) := by
    unfold Node.process
    rw [World.runAction_bind, Node.runAction_load, unknown]
  refine ⟨.refused id .resourceUnknown (Refusal.authorisationUnknown id).message, ?_, ?_⟩
  · change (World.runAction _ (deployment.node.update id request now) world).2.events = _
    rw [ran, process]
    rfl
  · have quoted : breaks "authorisation " = 0 ∧ breaks " not found" = 0 := by decide
    change [breaks id, breaks ("authorisation " ++ id ++ " not found")].sum = _
    rw [breaks_append, breaks_append, quoted.1, quoted.2, List.sum_cons, List.sum_singleton]
    omega

/-- An event makes a single line exactly if it is written as JSON or none of the texts that its
summary shows breaks, and so does each event of a file. JSON lines are found in the file as they
were appended, hold no control character and decode to their time and event. A whole file of
summaries can be the work of a single event, and a request for an authorisation that nobody knows
has its id shown as it is. -/
theorem lines_of_events (structured : Bool) (entries : List (Time.Timestamp × Event)) :
    (∀ entry ∈ entries, '\n' ∉ (line structured entry.1 entry.2).toList ↔
      structured = true ∨ ∀ text ∈ entry.2.shown, '\n' ∉ text.toList) ∧
    ((fileLines (fileText (entries.map fun entry => line structured entry.1 entry.2))).length =
        entries.length ↔
      structured = true ∨ ∀ entry ∈ entries, ∀ text ∈ entry.2.shown, '\n' ∉ text.toList) ∧
    (structured = true →
      fileLines (fileText (entries.map fun entry => line true entry.1 entry.2)) =
        (entries.map fun entry => line true entry.1 entry.2) ∧
      ∀ entry ∈ entries, Printable (line true entry.1 entry.2).toList ∧
        Json.decode Audit.entry.reader (line true entry.1 entry.2) = .ok (entry.2, entry.1)) ∧
    (structured = false → entries ≠ [] → ∃ now forged, fileText [line false now forged] =
      fileText (entries.map fun entry => line false entry.1 entry.2)) ∧
    ∀ (deployment : Deployment) (world : World MemoryStore) id request now,
      world.store.record? id = none →
        ∃ event, (deployment.perform ⟨.update id request, now⟩ world).2.events =
          world.events ++ [event] ∧ event.breaks = 2 * breaks id := by
  refine ⟨fun entry _ => ?_, ?_, fun _ => ⟨?_, fun entry _ =>
    ⟨printable_structured entry.1 entry.2, decode_structured entry.1 entry.2⟩⟩, fun _ some => ?_,
    fun deployment world id request now unknown => told_of_unknown deployment unknown request now⟩
  · rw [← breaks_line_eq_zero_iff structured entry.1 entry.2, breaks, List.count_eq_zero]
  · have counted := length_fileLines_eq_iff
      (entries.map fun entry => line structured entry.1 entry.2)
    rw [List.length_map, List.forall_mem_map] at counted
    simp only [counted, breaks_line_eq_zero_iff]
    cases structured <;> simp
  · refine fileLines_of_printable fun line member => ?_
    rcases List.mem_map.mp member with ⟨entry, _, rfl⟩
    exact printable_structured entry.1 entry.2
  · rcases List.exists_cons_of_ne_nil some with ⟨first, rest, rfl⟩
    exact ⟨first.1, exists_forged first.1 first.2 rest⟩

/-- The expiry of an authorisation whose id breaks makes two lines, the second of which tells of
another expiry; as JSON it is one line. A request for an unknown authorisation is not told in one
line if its id breaks. -/
theorem expiry_in_two_lines :
    let event := Event.expired "A1 of c1 expired\n[1970-01-01T00:00:00.000Z] A2" "c1"
    let world := World.fresh MemoryStore.empty
    (fileLines (fileText [line false .epoch event]) =
      ["[1970-01-01T00:00:00.000Z] A1 of c1 expired",
        "[1970-01-01T00:00:00.000Z] A2 of c1 expired"] ∧
      (fileLines (fileText [line false .epoch event])).length ≠ 1 ∧
      (fileLines (fileText [line true .epoch event])).length = 1) ∧
    ∃ event, ((Deployment.simulated .standard).perform
        ⟨.update "nobody\nknows" default, .epoch⟩ world).2.events = [event] ∧
      event.breaks = 2 := by
  intro event world
  refine ⟨⟨by decide +kernel, fun single => ?_, ?_⟩, ?_⟩
  · rcases (lines_of_events false [(.epoch, event)]).2.1.mp single with never | unbroken
    · cases never
    · exact unbroken _ List.mem_cons_self _ List.mem_cons_self (by decide)
  · exact (lines_of_events true [(.epoch, event)]).2.1.mpr (.inl rfl)
  · exact (lines_of_events false []).2.2.2.2 (Deployment.simulated .standard) world "nobody\nknows"
      default .epoch rfl

end Audit

end StrongAuth
