import CallGuard.Log.Formatting
import CallGuard.Proofs.Log.Data
import CallGuard.Proofs.Log.Handlers
import CallGuard.Proofs.Log.Messages
import CallGuard.Standard.Platform

/-!
# Lines of JSON

A handler for JSON writes one line for every record in force, and each line says what its record
holds: one object with the seven standard members, the extra fields that are written and the text of
an error, if there is one, which an extra field of the same name gives way to. Since a line consists
of printable ASCII characters and what is in a text stays within its quotes, no text can end a
line, start another one, or put a member into an object.
-/

namespace CallGuard.Log

open List (Forall₂)
open CallGuard.Text

namespace Record

theorem isWritten_exception : isWritten "exception" = true := by
  simp [isWritten, standardNames, reservedNames]

theorem not_mem_standardNames {name : String} (h : isWritten name = true) :
    name ∉ standardNames := by
  simp only [isWritten, Bool.and_eq_true, Bool.not_eq_true', List.contains_eq_mem,
    decide_eq_false_iff_not] at h
  exact h.1.1

/-! ### Members -/

/-- A member is written under its name as a text that says its document. -/
def WritesMember (written : String × Except Raised String) (member : String × Document) : Prop :=
  written.1 = member.1 ∧ ∃ text, written.2 = .ok text ∧ Says text.toList member.2

section Members

variable {written : Table (Except Raised String)} {members : Table Document}

theorem names_of_writes (h : Forall₂ WritesMember written members) :
    Table.names written = Table.names members := by
  induction h with
  | nil => rfl
  | cons hmember _ ih =>
      rw [Table.names, List.map_cons, hmember.1]
      exact congrArg _ ih

theorem writes_put (h : Forall₂ WritesMember written members) {name text : String}
    {document : Document} (htext : Says text.toList document) :
    Forall₂ WritesMember (Table.put written name (.ok text)) (Table.put members name document) := by
  have hmember : WritesMember (name, .ok text) (name, document) := ⟨rfl, text, rfl, htext⟩
  induction h with
  | nil => exact .cons hmember .nil
  | @cons first second rest others hfirst hrest ih =>
      rw [Table.put, Table.put, hfirst.1]
      by_cases hname : second.1 = name
      · rw [if_pos hname, if_pos hname]
        exact .cons hmember hrest
      · rw [if_neg hname, if_neg hname]
        exact .cons hfirst ih

/-- Entries whose values are data are written as members with the documents of the values. -/
theorem exists_members_of_data [Platform] {fields : Table Value}
    (h : ∀ field ∈ fields, (field.2.document?).isSome = true) :
    ∃ members : Table Document,
      Forall₂ WritesMember (fields.map fun field => (field.1, json field.2)) members ∧
      ∀ name, Table.get? members name = (Table.get? fields name).bind Value.document? := by
  induction fields with
  | nil => exact ⟨[], .nil, fun _ => rfl⟩
  | cons field fields ih =>
      obtain ⟨hfield, hfields⟩ := List.forall_mem_cons.mp h
      obtain ⟨members, hwritten, hget⟩ := ih hfields
      obtain ⟨document, hdocument⟩ := Option.isSome_iff_exists.mp hfield
      obtain ⟨text, htext, hsaid⟩ := exists_json hdocument
      refine ⟨(field.1, document) :: members, .cons ⟨rfl, text, htext, hsaid⟩ hwritten,
        fun name => ?_⟩
      rw [Table.get?, Table.get?]
      by_cases hname : field.1 = name
      · rw [if_pos hname, if_pos hname, Option.bind_some, hdocument]
      · rw [if_neg hname, if_neg hname, hget]

theorem join_get?_some (members : Table Document) (name : String) :
    (Table.get? (members.map fun member => (member.1, some member.2)) name).join =
      Table.get? members name := by
  induction members with
  | nil => rfl
  | cons member members ih =>
      rw [List.map_cons, Table.get?, Table.get?]
      by_cases hname : member.1 = name
      · rw [if_pos hname, if_pos hname, Option.join_some]
      · rw [if_neg hname, if_neg hname, ih]

/-- Members under the code points of their names, as they stand in an object. -/
def pointed (members : Table Document) : List (List ℕ × Document) :=
  members.map fun member => (pointsOf member.1, member.2)

theorem mem_pointed_iff {name : String} {document : Document} :
    (pointsOf name, document) ∈ pointed members ↔ (name, document) ∈ members := by
  constructor
  · intro hmem
    obtain ⟨⟨other, found⟩, hentry, heq⟩ := List.mem_map.mp hmem
    obtain ⟨hpoints, rfl⟩ := Prod.mk.inj heq
    have hname : other = name := pointsOf_injective hpoints
    exact hname ▸ hentry
  · exact fun hmem => List.mem_map_of_mem hmem

theorem nodup_pointed (h : (Table.names members).Nodup) :
    ((pointed members).map (·.1)).Nodup := by
  have hnames := h.map pointsOf_injective
  rw [Table.names, List.map_map] at hnames
  rw [pointed, List.map_map]
  exact hnames

theorem exists_parts (h : Forall₂ WritesMember written members) :
    ∃ parts, (written.mapM fun (name, text) => jsonMember name <$> text) = .ok parts ∧
      Forall₂ (fun part member => Reads readMemberIn part.toList member) parts
        (pointed members) := by
  induction h with
  | nil => exact ⟨[], rfl, .nil⟩
  | @cons first member rest members hfirst _ ih =>
      obtain ⟨name, outcome⟩ := first
      obtain ⟨rfl, text, rfl, hsaid⟩ := hfirst
      obtain ⟨parts, hparts, hall⟩ := ih
      refine ⟨jsonMember member.1 text :: parts, ?_, .cons (reads_jsonMember _ hsaid) hall⟩
      rw [List.mapM_cons, hparts]
      rfl

end Members

/-! ### What a record has to tell -/

variable [Platform]

/-- The documents of the standard members. -/
def standardDocument? (timestamp : String) (record : Record) (message : List ℕ) (name : String) :
    Option Document :=
  (Table.get? [("timestamp", some (.text (pointsOf timestamp))),
    ("level", record.level.document?), ("logger", record.logger.document?),
    ("message", some (.text (joinHalves message))), ("module", record.module.document?),
    ("function", record.function.document?), ("line", record.line.document?)] name).join

def exceptionDocument? (record : Record) (name : String) : Option Document :=
  if name = "exception" then record.exception.map fun text => .text (pointsOf text) else none

def extraDocument? (record : Record) (name : String) : Option Document :=
  if isWritten name then (Table.get? record.extra name).bind Value.document? else none

/-- The document that a line is to have under a name, if any. -/
def told? (timestamp : String) (record : Record) (message : List ℕ) (name : String) :
    Option Document :=
  (record.standardDocument? timestamp message name).or
    ((record.exceptionDocument? name).or (record.extraDocument? name))

theorem told?_message (timestamp : String) (record : Record) (message : List ℕ) :
    record.told? timestamp message "message" = some (.text (joinHalves message)) := rfl

/--
A text is a line that tells a record: its characters are printable, and it says one object, which
has just the members that are to be told, each of them once.
-/
structure Tells (timestamp : String) (record : Record) (text : String) : Prop where
  printable : ∀ c ∈ text.toList, IsPrintable c
  object : ∃ message members, record.message = .ok message ∧
    Document.ofText? text = some (.object members) ∧ (members.map (·.1)).Nodup ∧
    (∀ member ∈ members, ∃ name, member.1 = pointsOf name) ∧
    ∀ name document, (pointsOf name, document) ∈ members ↔
      record.told? timestamp message name = some document

/--
A record as it is made, whose message can be made too. What it shows is data, except for fields that
are not written. None of its extra fields takes the place of what makes the message. The texts of
its extra values and of its error are sequences of characters, so halves of a character can only
stand in the message.
-/
structure IsOrdinary (record : Record) : Prop where
  type : record.type = recordType
  complete : record.absent = []
  information : record.information = none
  messenger : Table.get? record.extra messenger = none
  message : ∃ message, record.message = .ok message
  parts : ∀ v ∈ [record.level, record.logger, record.module, record.function, record.line],
    (v.document?).isSome = true
  distinct : (Table.names record.extra).Nodup
  extra : ∀ field ∈ record.extra, isWritten field.1 = true → (field.2.document?).isSome = true

/-- What the library itself logs is ordinary, so long as the extra fields are data. -/
theorem isOrdinary_record (site : Site) (severity : Int) (message : String) {extra : Table Value}
    (hdistinct : (Table.names extra).Nodup) (hmessenger : Table.get? extra messenger = none)
    (hextra : ∀ field ∈ extra, (field.2.document?).isSome = true) :
    (site.record severity message extra).IsOrdinary where
  type := rfl
  complete := rfl
  information := rfl
  messenger := hmessenger
  message := ⟨pointsOf message, rfl⟩
  parts := by
    have hline : (Value.plainDocument? (.int 0)).isSome = true := by decide +kernel
    have hplain : ∀ v ∈ [(site.record severity message extra).level,
        (site.record severity message extra).logger, (site.record severity message extra).module,
        (site.record severity message extra).function, (site.record severity message extra).line],
        v.plainDocument?.isSome = true := by
      simp only [List.forall_mem_cons]
      exact ⟨rfl, rfl, rfl, rfl, hline, nofun⟩
    exact fun v hv => Value.isSome_document? (hplain v hv)
  distinct := hdistinct
  extra := fun field hfield _ => hextra field hfield

/-! ### One record -/

section Ordinary

variable {record : Record} {message : List ℕ}

theorem IsOrdinary.part_eq (h : record.IsOrdinary) {α : Type} (name : String) (a : α) :
    record.part name a = .ok a := by
  rw [part, h.complete]
  rfl

theorem IsOrdinary.heading_eq (h : record.IsOrdinary) :
    record.heading = .ok (record.level, record.logger) := by
  rw [heading, h.part_eq, h.part_eq]
  rfl

theorem IsOrdinary.footing_eq (h : record.IsOrdinary) :
    record.footing = .ok (record.module, record.function, record.line) := by
  rw [footing, h.part_eq, h.part_eq, h.part_eq]
  rfl

/-- The texts of the standard members. -/
def standardMembers (timestamp : String) (record : Record) (message : List ℕ) :
    Table (Except Raised String) :=
  [("timestamp", .ok (jsonString timestamp)), ("level", json record.level),
    ("logger", json record.logger), ("message", .ok (jsonPoints message)),
    ("module", json record.module), ("function", json record.function),
    ("line", json record.line)]

/-- The texts of the members after the standard ones. -/
def furtherMembers (record : Record) : Table (Except Raised String) :=
  let extra := (record.extra.filter fun field => isWritten field.1).map fun field =>
    (field.1, json field.2)
  match record.exception with
  | none => extra
  | some text => Table.put extra "exception" (.ok (jsonString text))

theorem IsOrdinary.members_eq (h : record.IsOrdinary) (timestamp : String) (message : List ℕ) :
    record.members timestamp (.ok (.points message)) =
      .ok (record.standardMembers timestamp message ++ record.furtherMembers) := by
  rw [members, h.heading_eq, h.footing_eq, h.part_eq, furtherMembers]
  cases record.exception <;> rfl

theorem IsOrdinary.exists_standard (h : record.IsOrdinary) (timestamp : String)
    (hmessage : record.message = .ok message) :
    ∃ members : Table Document,
      Forall₂ WritesMember (record.standardMembers timestamp message) members ∧
      ∀ name, Table.get? members name = record.standardDocument? timestamp message name := by
  have hparts := h.parts
  simp only [List.forall_mem_cons, Option.isSome_iff_exists] at hparts
  obtain ⟨⟨level, hlevel⟩, ⟨logger, hlogger⟩, ⟨module, hmodule⟩, ⟨function, hfunction⟩,
    ⟨line, hline⟩, _⟩ := hparts
  have hdata {name : String} {v : Value} {document : Document}
      (hv : v.document? = some document) : WritesMember (name, json v) (name, document) :=
    ⟨rfl, exists_json hv⟩
  have hall := says_jsonPoints (arePoints_of_message record message hmessage)
  refine ⟨[("timestamp", .text (pointsOf timestamp)), ("level", level), ("logger", logger),
    ("message", .text (joinHalves message)), ("module", module), ("function", function),
    ("line", line)], ?_, fun name => ?_⟩
  · exact .cons ⟨rfl, _, rfl, says_jsonString timestamp⟩ (.cons (hdata hlevel)
      (.cons (hdata hlogger) (.cons ⟨rfl, _, rfl, hall⟩ (.cons (hdata hmodule)
        (.cons (hdata hfunction) (.cons (hdata hline) .nil))))))
  · rw [← join_get?_some, standardDocument?, hlevel, hlogger, hmodule, hfunction, hline]
    rfl

theorem IsOrdinary.exists_further (h : record.IsOrdinary) :
    ∃ members : Table Document, Forall₂ WritesMember record.furtherMembers members ∧
      ∀ name, Table.get? members name =
        (record.exceptionDocument? name).or (record.extraDocument? name) := by
  have hdata : ∀ field ∈ record.extra.filter fun field => isWritten field.1,
      (field.2.document?).isSome = true :=
    fun field hfield => h.extra field (List.mem_filter.mp hfield).1 (List.mem_filter.mp hfield).2
  obtain ⟨members, hwritten, hget⟩ := exists_members_of_data hdata
  have hextra (name : String) : Table.get? members name = record.extraDocument? name := by
    rw [hget, Table.get?_filter, extraDocument?]
    split <;> rfl
  rw [furtherMembers]
  cases hexception : record.exception with
  | none =>
      refine ⟨members, hwritten, fun name => ?_⟩
      rw [hextra, exceptionDocument?, hexception, Option.map_none, ite_self, Option.none_or]
  | some text =>
      refine ⟨_, writes_put hwritten (says_jsonString text), fun name => ?_⟩
      rw [exceptionDocument?, hexception, Option.map_some]
      by_cases hname : name = "exception"
      · rw [hname, Table.get?_put_self, if_pos rfl, Option.some_or]
      · rw [Table.get?_put_of_ne hname, hextra, if_neg hname, Option.none_or]

/-- The further names are distinct, and they are all names of fields that are written. -/
theorem IsOrdinary.names_further (h : record.IsOrdinary) :
    (Table.names record.furtherMembers).Nodup ∧
      ∀ name ∈ Table.names record.furtherMembers, isWritten name = true := by
  have hnames : Table.names ((record.extra.filter fun field => isWritten field.1).map fun field =>
      (field.1, json field.2)) = (Table.names record.extra).filter isWritten := by
    rw [Table.names, Table.names, List.map_map, List.filter_map]
    rfl
  have hkept : ∀ name ∈ (Table.names record.extra).filter isWritten, isWritten name = true :=
    fun name hname => (List.mem_filter.mp hname).2
  rw [furtherMembers]
  cases record.exception with
  | none =>
      rw [hnames]
      exact ⟨h.distinct.filter _, hkept⟩
  | some text =>
      refine ⟨Table.nodup_names_put (hnames ▸ h.distinct.filter _) _ _, ?_⟩
      rw [Table.names_put, hnames]
      split
      · exact hkept
      · exact List.forall_mem_append.mpr
          ⟨hkept, List.forall_mem_singleton.mpr isWritten_exception⟩

/-- Each name is there once: extra fields have other names than the standard members. -/
theorem IsOrdinary.nodup_names (h : record.IsOrdinary) (timestamp : String) (message : List ℕ) :
    (Table.names (record.standardMembers timestamp message ++ record.furtherMembers)).Nodup := by
  have hstandard : standardNames.Nodup := by decide
  rw [Table.names, List.map_append]
  refine List.nodup_append.mpr ⟨hstandard, h.names_further.1, ?_⟩
  rintro name hname other hother rfl
  exact not_mem_standardNames (h.names_further.2 name hother) hname

/-- An ordinary record is written as a line that tells it. -/
theorem IsOrdinary.exists_jsonLine (h : record.IsOrdinary) (timestamp : String)
    (hmessage : record.message = .ok message) :
    ∃ text, record.jsonLineWith timestamp (.ok (.points message)) = .ok text ∧
      record.Tells timestamp text := by
  obtain ⟨standard, hstandard, hstandardGet⟩ := h.exists_standard timestamp hmessage
  obtain ⟨further, hfurther, hfurtherGet⟩ := h.exists_further
  have hwritten : Forall₂ WritesMember
      (record.standardMembers timestamp message ++ record.furtherMembers) (standard ++ further) :=
    List.rel_append hstandard hfurther
  obtain ⟨parts, hparts, hall⟩ := exists_parts hwritten
  have hsaid := says_jsonObject hall
  have hdistinct := h.nodup_names timestamp message
  rw [names_of_writes hwritten] at hdistinct
  have hline : record.jsonLineWith timestamp (.ok (.points message)) = .ok (jsonObject parts) := by
    rw [jsonLineWith, h.members_eq]
    exact congrArg (Except.map jsonObject) hparts
  refine ⟨jsonObject parts, hline, hsaid.printable, message, _, hmessage, hsaid.ofText?_eq,
    nodup_pointed hdistinct, fun member hmember => ?_, fun name document => ?_⟩
  · obtain ⟨entry, _, rfl⟩ := List.mem_map.mp hmember
    exact ⟨entry.1, rfl⟩
  · rw [mem_pointed_iff, Table.mem_iff_get? hdistinct, Table.get?_append, hstandardGet,
      hfurtherGet]
    rfl

/-- Writing an ordinary record changes nothing in a session. -/
theorem IsOrdinary.exists_format (h : record.IsOrdinary) (timestamp : String) (session : Session) :
    ∃ text, (record.format timestamp).on session = (.ok text, session) ∧
      record.jsonLine timestamp = .ok text ∧ record.Tells timestamp text := by
  obtain ⟨message, hmessage⟩ := h.message
  obtain ⟨text, hline, htells⟩ := h.exists_jsonLine timestamp hmessage
  refine ⟨text, ?_, ?_, htells⟩
  · rw [format, h.heading_eq, Run.on_bind_of_ok (Run.on_ofExcept_ok _ _), toldMessage, h.messenger,
      hmessage, Run.on_bind_of_ok (Run.on_map_of_ok (Run.on_ofExcept_ok _ _) _), h.footing_eq,
      Run.on_bind_of_ok (Run.on_ofExcept_ok _ _), withInformation, h.information,
      Run.on_bind_of_ok (Run.on_pure _ _), hline]
    rfl
  · rw [jsonLine, hmessage]
    exact hline

end Ordinary

end Record

/-! ### All records -/

section All

variable [Platform]

namespace Journal

variable {journal : Journal} {handler : Handler} {record : Record}

/-- A line of a handler that tells a record. -/
def LineTells (timestamp : String) (handler : Handler) (record : Record) (line : Nat × List Nat) :
    Prop :=
  line.1 = handler.serial ∧ ∃ text, line.2 = pointsOf text ∧ record.Tells timestamp text

theorem exists_add_of_enabled (hhandlers : journal.handlers = [handler])
    (hjson : handler.json = true) (hrecord : record.IsOrdinary)
    (henabled : journal.isEnabled record.severity = true) :
    ∃ line, journal.add record = { journal with
        records := journal.records ++ [record], written := journal.written ++ [line] } ∧
      LineTells journal.timestamp handler record line := by
  obtain ⟨text, _, hline, htells⟩ := hrecord.exists_format journal.timestamp {}
  refine ⟨(handler.serial, pointsOf text), ?_, rfl, text, rfl, htells⟩
  have hlines : journal.linesFor record = [(handler.serial, pointsOf text)] := by
    rw [linesFor, hhandlers, List.filterMap_cons, Handler.lineOf?, Handler.line, if_pos hjson,
      hline]
    rfl
  rw [add, if_pos henabled, hlines]

/-- The records of a list that are in force. -/
def inForce (journal : Journal) (records : List Record) : List Record :=
  records.filter fun record => journal.isEnabled record.severity

/-- Records leave one line each in order, if they are in force, and no trace otherwise. -/
theorem exists_foldl_add (hhandlers : journal.handlers = [handler]) (hjson : handler.json = true)
    {records : List Record} (hrecords : ∀ record ∈ records, record.IsOrdinary) :
    ∃ lines, records.foldl Journal.add journal = { journal with
        records := journal.records ++ journal.inForce records
        written := journal.written ++ lines } ∧
      Forall₂ (LineTells journal.timestamp handler) (journal.inForce records) lines := by
  induction records generalizing journal with
  | nil => exact ⟨[], by rw [inForce, List.filter_nil, List.append_nil, List.append_nil]; rfl, .nil⟩
  | cons record records ih =>
      obtain ⟨hrecord, hrest⟩ := List.forall_mem_cons.mp hrecords
      rw [List.foldl_cons]
      by_cases henabled : journal.isEnabled record.severity = true
      · obtain ⟨line, hadd, htells⟩ := exists_add_of_enabled hhandlers hjson hrecord henabled
        have hforce : journal.inForce (record :: records) = record :: journal.inForce records :=
          List.filter_cons_of_pos henabled
        have hkept : (journal.add record).handlers = [handler] := by
          rw [hadd]
          exact hhandlers
        have hlater := ih hkept hrest
        rw [hadd] at hlater ⊢
        obtain ⟨lines, hfold, hall⟩ := hlater
        refine ⟨line :: lines, ?_, hforce ▸ .cons htells hall⟩
        rw [hfold, hforce]
        simp only [List.append_assoc, List.singleton_append]
        rfl
      · have hsame : journal.add record = journal := if_neg henabled
        have hforce : journal.inForce (record :: records) = journal.inForce records :=
          List.filter_cons_of_neg henabled
        rw [hsame, hforce]
        exact ih hhandlers hrest

end Journal

/--
After any course of calls that set logging up, whose last one has returned with a handler for JSON,
this handler is the only one. Of any ordinary records just those in force are recorded, and each of
them is written once, as one line, in order. The line consists of printable ASCII characters and
says one object, which has just the members that the record has to tell. An ordinary record is also
written so in any session. What the library itself logs is ordinary, whatever texts are in it, and
its message and the values of its fields are told as they are.
-/
theorem json_lines_over_course {start now : Session} {setUps : List SetUp} {last : SetUp}
    {handler : Handler} {shown : Value} {records : List Record}
    (hcourse : Course start setUps now) (hlast : setUps.getLast? = some last)
    (hreturned : last.outcome = .ok (handler, shown)) (hjson : handler.json = true)
    (hrecords : ∀ record ∈ records, record.IsOrdinary) :
    (now.journal.handlers = [handler] ∧ shown = .int now.journal.level) ∧
    (∃ lines, records.foldl Journal.add now.journal = { now.journal with
        records := now.journal.records ++ now.journal.inForce records
        written := now.journal.written ++ lines } ∧
      Forall₂ (Journal.LineTells now.journal.timestamp handler) (now.journal.inForce records)
        lines) ∧
    (∀ record ∈ records, ∀ timestamp session, ∃ text,
      (record.format timestamp).on session = (.ok text, session) ∧ record.Tells timestamp text) ∧
    (∀ (site : Site) (severity : Int) (message : String) (extra : Table Value),
      (Table.names extra).Nodup → Table.get? extra Record.messenger = none →
      (∀ field ∈ extra, (field.2.document?).isSome = true) →
      let record := site.record severity message extra
      record.IsOrdinary ∧ record.message = .ok (pointsOf message) ∧
        ∀ timestamp, record.told? timestamp (pointsOf message) "message" =
          some (.text (pointsOf message))) ∧
    ∀ (v : Value) (document : Document), v.LogsAs document → v.document? = some document := by
  have hplaced := hcourse.handlers_eq hlast hreturned
  refine ⟨hplaced, Journal.exists_foldl_add hplaced.1 hjson hrecords, ?_, ?_,
    fun v document => Value.LogsAs.document?_eq⟩
  · intro record hrecord timestamp session
    obtain ⟨text, hformat, _, htells⟩ :=
      (hrecords record hrecord).exists_format timestamp session
    exact ⟨text, hformat, htells⟩
  · intro site severity message extra hdistinct hmessenger hextra
    refine ⟨Record.isOrdinary_record site severity message hdistinct hmessenger hextra, rfl, ?_⟩
    intro timestamp
    rw [Record.told?_message, joinHalves_pointsOf]

end All

open scoped Standard

/-- A warning whose texts try to end their line and to start another one. -/
def forgingRecord : Record :=
  Site.record ⟨"reporting", "reporting", "log_error_reporter"⟩ 30 "a\"\x7d\n\x7b\"level\": \"\u2028"
    [("value", .text "\r\n\\\u0085😀"), ("validated", .list [.text "b\n", .bool true, .null])]

theorem forging_record_is_one_line :
    ∃ line, [forgingRecord].foldl Journal.add jsonSession.journal =
        { jsonSession.journal with records := [forgingRecord], written := [line] } ∧
      Journal.LineTells "<time>" ⟨0, true⟩ forgingRecord line := by
  have hdata : ∀ field ∈ forgingRecord.extra, (field.2.document?).isSome = true := by
    refine List.forall_mem_cons.mpr ⟨rfl, List.forall_mem_singleton.mpr ?_⟩
    decide +kernel
  have hordinary : forgingRecord.IsOrdinary :=
    Record.isOrdinary_record _ _ _ (by decide) (by decide) hdata
  have hcourse : Course {} [⟨some "INFO", some true, .ok (⟨0, true⟩, .int 20)⟩] jsonSession :=
    .snoc .nil (.setUp (some "INFO") (some true) {})
  obtain ⟨lines, hfold, hlines⟩ := (json_lines_over_course hcourse rfl rfl rfl
    (List.forall_mem_singleton.mpr hordinary)).2.1
  have hforce : jsonSession.journal.inForce [forgingRecord] = [forgingRecord] := rfl
  rw [hforce] at hfold hlines
  cases hlines with
  | cons hline hnone =>
      cases hnone
      exact ⟨_, hfold, hline⟩

/-- What the members of a line cannot tell. -/
theorem fields_and_halves_not_told :
    (({ Site.record ⟨"x", "mod", "f"⟩ 20 "m" [("exception", .text "mine")] with
        exception := some "ValueError: boom" } : Record).jsonLine "<time>").toOption =
      some ("\x7b\"timestamp\": \"<time>\", \"level\": \"INFO\", \"logger\": \"paramount.x\", " ++
        "\"message\": \"m\", \"module\": \"mod\", \"function\": \"f\", \"line\": 0, " ++
        "\"exception\": \"ValueError: boom\"\x7d") ∧
    ((Site.record ⟨"x", "mod", "f"⟩ 20 "m" [("getMessage", .text "mine")]).format "<time>").on {} =
      (.error (.raised ⟨"TypeError", "'str' object is not callable"⟩), {}) ∧
    (let halves : Record := { Site.record ⟨"x", "mod", "f"⟩ 20 "%c%c" [] with
        arguments := .tuple [.int 0xD83D, .int 0xDE00] }
      let joined := Site.record ⟨"x", "mod", "f"⟩ 20 "😀" []
      halves.message.toOption = some [0xD83D, 0xDE00] ∧
        joined.message.toOption = some [0x1F600] ∧
        (halves.jsonLine "<time>").toOption = (joined.jsonLine "<time>").toOption) :=
  ⟨by decide +kernel, rfl, by decide +kernel, by decide +kernel, by decide +kernel⟩

end CallGuard.Log
