import Eva4.Items.Basic

/-!
# CSV output of the file writer

The CSV side of `DataGen`: `FieldKind::write_csv_string_from`, `escape_csv`, the
header and the lines, and a reader of one CSV record (RFC 4180, ended by LF or
CRLF).  How numbers, dates and values are printed is taken as given.
-/

namespace Eva4.FileWriter

open Items

abbrev Text := List Char

inductive FieldKind where
  | oid | type | group | id | timestamp | time | status | value
deriving DecidableEq

def FieldKind.defaultName : FieldKind -> String
  | .oid => "OID"
  | .type => "Type"
  | .group => "Group"
  | .id => "Id"
  | .timestamp => "Timestamp"
  | .time => "Time"
  | .status => "Status"
  | .value => "Value"

/-- A state, its numbers, dates and value as they are printed.  The common crate splits the OID. -/
structure ItemState where
  oid : OID
  group : Option Text
  id : Text
  status : Text
  value : Option Text
  timestamp : Text
  dateStr : Text

variable (state : ItemState)

def FieldKind.text : FieldKind -> Text
  | .oid => state.oid.asStr.toList
  | .type => state.oid.kind.asStr.toList
  | .group => state.group.getD []
  | .id => state.id
  | .timestamp => state.timestamp
  | .time => state.dateStr
  | .status => state.status
  | .value => state.value.getD []

def csvEscapedChars : Text := [',', '\r', '\n', '"']

def doubled (s : Text) : Text :=
  s.flatMap fun c => if c = '"' then ['"', '"'] else [c]

def escapeCsv (s : Text) : Text :=
  if (doubled s).any (· ∈ csvEscapedChars) then '"' :: doubled s ++ ['"'] else doubled s

/-- Only the value is escaped; a missing one is written as nothing. -/
def FieldKind.csvString (field : FieldKind) : Text :=
  if field = .value then escapeCsv (field.text state) else field.text state

structure DataGen where
  dosCr : Bool
  fields : List FieldKind

variable (g : DataGen)

namespace DataGen

def lineEnd : Text :=
  if g.dosCr then ['\r', '\n'] else ['\n']

def header : Text :=
  List.intercalate [','] (g.fields.map fun field => field.defaultName.toList) ++ g.lineEnd

-- a separator is written once something has been written
def body (s : Text) : List FieldKind -> Text
  | [] => s
  | field :: fields => body ((if s = [] then s else s ++ [',']) ++ field.csvString state) fields

def line : Text :=
  body state [] g.fields ++ g.lineEnd

end DataGen

/-!
## Reading a record
-/

inductive Mode where
  | start | plain | quoted | closed
deriving DecidableEq

def before (t : Text) : List Text -> List Text
  | [] => [t]
  | field :: fields => (t ++ field) :: fields

def readFrom : Mode -> Text -> Option (List Text)
  | _, [] => none
  | mode, c :: rest =>
    if mode = .quoted then
      if c = '"' then readFrom .closed rest else (readFrom .quoted rest).map (before [c])
    else if c = '"' then
      match mode with
      | .start => readFrom .quoted rest
      | .closed => (readFrom .quoted rest).map (before [c])
      | _ => none
    else if c = ',' then (readFrom .start rest).map ([] :: ·)
    else if c = '\n' then if rest = [] then some [[]] else none
    else if c = '\r' then if rest = ['\n'] then some [[]] else none
    else if mode = .closed then none
    else (readFrom .plain rest).map (before [c])

def readCsv (s : Text) : Option (List Text) :=
  readFrom .start s

def Plain (t : Text) : Prop :=
  forall c, c ∈ t -> c ∉ csvEscapedChars

instance (t : Text) : Decidable (Plain t) :=
  List.decidableBAll (· ∉ csvEscapedChars) t

def EndsIn (rest : Text) (fields : List Text) : Prop :=
  forall mode, mode ≠ .quoted -> readFrom mode rest = some ([] :: fields)

/-- A written field is read as a text, whatever ends it. -/
def Reads (written t : Text) : Prop :=
  forall rest fields, EndsIn rest fields -> readFrom .start (written ++ rest) = some (t :: fields)

lemma endsIn_lineEnd : EndsIn g.lineEnd [] := by
  intro mode hmode
  unfold DataGen.lineEnd
  split <;> simp [readFrom, hmode]

lemma endsIn_comma (h : readFrom .start rest = some fields) : EndsIn (',' :: rest) fields := by
  intro mode hmode
  simp [readFrom, hmode, h]

lemma readFrom_plain (hplain : Plain t) (hend : EndsIn rest fields)
    (hmode : mode = .start ∨ mode = .plain) : readFrom mode (t ++ rest) = some (t :: fields) := by
  induction t generalizing mode with
  | nil =>
    apply hend
    rintro rfl
    simp at hmode
  | cons c t ih =>
    have hc : c ∉ csvEscapedChars := hplain c (by simp)
    have ht := ih (fun d hd => hplain d (by simp [hd])) (.inr rfl)
    simp only [csvEscapedChars, List.mem_cons, List.not_mem_nil, or_false, not_or] at hc
    rcases hmode with rfl | rfl <;> simp [readFrom, hc, ht, before]

lemma readFrom_quoted (hend : EndsIn rest fields) :
    readFrom .quoted (doubled t ++ '"' :: rest) = some (t :: fields) := by
  induction t with
  | nil => simpa [doubled, readFrom] using hend .closed (by simp)
  | cons c t ih =>
    have hcons : doubled (c :: t) = (if c = '"' then ['"', '"'] else [c]) ++ doubled t := rfl
    rw [hcons]
    by_cases hc : c = '"'
    · simp [hc, readFrom, ih, before]
    · simp [hc, readFrom, ih, before]

lemma reads_plain (hplain : Plain t) : Reads t t :=
  fun _ _ hend => readFrom_plain hplain hend (.inl rfl)

lemma reads_escapeCsv : Reads (escapeCsv t) t := by
  intro rest fields hend
  unfold escapeCsv
  split
  · simpa [readFrom] using readFrom_quoted hend
  · next hnone =>
    have hplain : Plain (doubled t) := fun c hc hesc =>
      hnone (List.any_eq_true.mpr ⟨c, hc, decide_eq_true hesc⟩)
    have hsame : doubled t = t := by
      have hquote : '"' ∉ t := fun hmem =>
        hplain '"' (List.mem_flatMap.mpr ⟨'"', hmem, by simp⟩) (by decide)
      unfold doubled
      rw [List.flatMap_congr (g := fun c => [c])]
      · simp
      · intro c hc
        rw [if_neg]
        rintro rfl
        exact hquote hc
    rw [hsame] at hplain ⊢
    exact reads_plain hplain rest fields hend

lemma escapeCsv_eq_nil : escapeCsv t = [] <-> t = [] := by
  unfold escapeCsv
  cases t with
  | nil => decide
  | cons c t =>
    split <;> simp [doubled]
    split <;> simp

theorem readCsv_join {written text : FieldKind -> Text}
    (hread : forall f, Reads (written f) (text f)) (g : DataGen) (field : FieldKind)
    (fields : List FieldKind) :
    readCsv (List.intercalate [','] ((field :: fields).map written) ++ g.lineEnd) =
      some ((field :: fields).map text) := by
  induction fields generalizing field with
  | nil => simpa [readCsv] using hread field _ _ (endsIn_lineEnd g)
  | cons f fields ih =>
    have hrest := hread field _ _ (endsIn_comma (ih f))
    simpa [readCsv, List.intercalate] using hrest

/-!
## Headers and lines
-/

/-- The fields written without escaping have no special characters: OIDs are
checked by the common crate, the others are numbers and dates. -/
def ItemState.PlainFields : Prop :=
  forall field : FieldKind, field ≠ .value -> Plain (field.text state)

variable {state}

lemma reads_csvString (h : state.PlainFields) (field : FieldKind) :
    Reads (field.csvString state) (field.text state) := by
  unfold FieldKind.csvString
  split
  · exact reads_escapeCsv
  · next hfield => exact reads_plain (h field hfield)

lemma csvString_eq_nil (field : FieldKind) :
    field.csvString state = [] <-> field.text state = [] := by
  unfold FieldKind.csvString
  split
  · exact escapeCsv_eq_nil
  · rfl

lemma body_of_ne_nil (hs : s ≠ []) : DataGen.body state s fields =
      List.intercalate [','] (s :: fields.map (FieldKind.csvString state)) := by
  induction fields generalizing s with
  | nil => simp [DataGen.body]
  | cons f fields ih =>
    rw [DataGen.body, if_neg hs, ih (by simp [hs])]
    cases fields <;> simp [List.intercalate]

theorem body_of_nil (hfirst : field.text state = []) :
    DataGen.body state [] (field :: fields) = DataGen.body state [] fields := by
  simp [DataGen.body, (csvString_eq_nil field).mpr hfirst]

theorem readCsv_body (h : state.PlainFields) (g : DataGen) (hfirst : field.text state ≠ []) :
    readCsv (DataGen.body state [] (field :: fields) ++ g.lineEnd) =
      some ((field :: fields).map (·.text state)) := by
  have hne : field.csvString state ≠ [] := fun hnil => hfirst ((csvString_eq_nil field).mp hnil)
  rw [DataGen.body, if_pos rfl, List.nil_append, body_of_ne_nil hne]
  exact readCsv_join (reads_csvString h) g field fields

lemma readCsv_lineEnd : readCsv g.lineEnd = some [[]] :=
  endsIn_lineEnd g .start (by decide)

lemma readCsv_body_length (h : state.PlainFields) (g : DataGen) :
    exists texts, readCsv (DataGen.body state [] fields ++ g.lineEnd) = some texts ∧
      texts.length ≤ max 1 fields.length := by
  induction fields with
  | nil => exact ⟨_, readCsv_lineEnd g, by simp⟩
  | cons field fields ih =>
    by_cases hfirst : field.text state = []
    · rcases ih with ⟨texts, hread, hlength⟩
      rw [body_of_nil hfirst]
      exact ⟨texts, hread, by simp; omega⟩
    · exact ⟨_, readCsv_body h g hfirst, by simp⟩

/-- The line has the header's number of fields and the text of each configured field. -/
def ReadsBack (state : ItemState) (g : DataGen) : Prop :=
  exists names texts, readCsv g.header = some names ∧ readCsv (g.line state) = some texts ∧
    texts.length = names.length ∧
    forall (i : Nat) (field : FieldKind), g.fields[i]? = some field ->
      texts[i]? = some (field.text state)

/-- A line is read back unless the first of several fields is empty. -/
theorem csv_line_reads_back_iff (h : state.PlainFields) (g : DataGen) : ReadsBack state g <->
      forall first second rest, g.fields = first :: second :: rest -> first.text state ≠ [] := by
  unfold ReadsBack DataGen.header DataGen.line
  cases g.fields with
  | nil => simp [DataGen.body, readCsv_lineEnd]
  | cons first fields =>
    rw [readCsv_join fun field => reads_plain (by cases field <;> decide)]
    constructor
    · rintro ⟨names, texts, hheader, hline, hlength, -⟩ _ second rest hfields hnil
      cases hheader
      cases hfields
      rcases readCsv_body_length h g with ⟨texts', hread, hbound⟩
      rw [body_of_nil hnil, hread] at hline
      cases hline
      simp at hlength hbound
      omega
    · intro hfirst
      refine ⟨_, (first :: fields).map (·.text state), rfl, ?_, by simp, ?_⟩
      · by_cases hnil : first.text state = []
        · cases fields with
          | nil => rw [body_of_nil hnil, List.map_singleton, hnil]; exact readCsv_lineEnd g
          | cons second rest => exact absurd hnil (hfirst _ _ _ rfl)
        · exact readCsv_body h g hnil
      · intro i field hi
        rw [List.getElem?_map, hi]
        rfl

def lampState : ItemState :=
  ⟨⟨.unit, "lamp"⟩, none, "lamp".toList, "1".toList, some "say \"on\", please".toList,
    "7".toList, "1970".toList⟩

lemma lampState_plain : lampState.PlainFields := by
  intro field hfield
  cases field <;> first | decide | exact absurd rfl hfield

theorem lamp_line_reads_back : ReadsBack lampState ⟨true, [.id, .group, .value]⟩ :=
  (csv_line_reads_back_iff lampState_plain _).mpr (by rintro _ _ _ ⟨⟩; decide)

/-- The empty group in front takes its separator with it. -/
theorem group_first_not_read_back : ¬ ReadsBack lampState ⟨false, [.group, .id]⟩ := by
  rintro ⟨names, texts, hheader, hline, hlength, -⟩
  cases hheader
  cases hline
  contradiction

end Eva4.FileWriter
