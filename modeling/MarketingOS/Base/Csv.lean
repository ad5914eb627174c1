import MarketingOS.Base.Dict

/-!
# Comma-separated records

Python's `csv` reader and its `DictReader`. A text is read line by line and a line character by
character, with a state that says where in a record the reader is. A record is over at the end of a
line unless a quoted field is open. What has been read before an error is kept apart from the
error, since a caller may stop before it comes to it.
-/
namespace MarketingOS.Csv

/-- The characters of a dialect, and how long a field may be. A quote inside a quoted field is
doubled. -/
structure Dialect where
  delimiter : Char
  quotechar : Char
  fieldLimit : Nat

/-- The default dialect and the default limit. -/
def excel : Dialect := ⟨',', '\x22', 131072⟩

/-- Where in a record the reader is. -/
inductive State where
  | startRecord
  | startField
  | inField
  | inQuotedField
  | quoteInQuotedField
  | eatCrnl
deriving DecidableEq, Repr

/-- `csv.Error` -/
inductive Error where
  /-- `new-line character seen in unquoted field` -/
  | newLine
  /-- `field larger than field limit` -/
  | fieldLimit
deriving DecidableEq, Repr

/-- The reader: the fields that are complete, and the characters of the next one, last first. -/
structure Reader where
  state : State := .startRecord
  field : List Char := []
  fields : List String := []

/-- `parse_save_field` -/
def Reader.save (reader : Reader) : Reader :=
  { reader with field := [], fields := reader.fields ++ [String.ofList reader.field.reverse] }

/-- `parse_add_char`, into a state. -/
def Reader.add (dialect : Dialect) (c : Char) (state : State) (reader : Reader) :
    Except Error Reader :=
  if dialect.fieldLimit ≤ reader.field.length then .error .fieldLimit
  else .ok { reader with field := c :: reader.field, state := state }

/-- A line ends in `\n` or `\r`. -/
def isBreak (c : Char) : Bool := c = '\n' || c = '\r'

/-- `parse_process_char` on a character that is expected to begin a field. -/
def Reader.beginField (dialect : Dialect) (c : Char) (reader : Reader) : Except Error Reader :=
  if isBreak c then .ok { reader.save with state := .eatCrnl }
  else if c = dialect.quotechar then .ok { reader with state := .inQuotedField }
  else if c = dialect.delimiter then .ok { reader.save with state := .startField }
  else reader.add dialect c .inField

/-- `parse_process_char` -/
def Reader.process (dialect : Dialect) (reader : Reader) (c : Char) : Except Error Reader :=
  match reader.state with
  | .startRecord =>
    if isBreak c then .ok { reader with state := .eatCrnl } else reader.beginField dialect c
  | .startField => reader.beginField dialect c
  | .inField =>
    if isBreak c then .ok { reader.save with state := .eatCrnl }
    else if c = dialect.delimiter then .ok { reader.save with state := .startField }
    else reader.add dialect c .inField
  | .inQuotedField =>
    if c = dialect.quotechar then .ok { reader with state := .quoteInQuotedField }
    else reader.add dialect c .inQuotedField
  | .quoteInQuotedField =>
    if c = dialect.quotechar then reader.add dialect c .inQuotedField
    else if c = dialect.delimiter then .ok { reader.save with state := .startField }
    else if isBreak c then .ok { reader.save with state := .eatCrnl }
    else reader.add dialect c .inField
  | .eatCrnl => if isBreak c then .ok reader else .error .newLine

/-- `parse_process_char` at the end of a line. -/
def Reader.endLine (reader : Reader) : Reader :=
  match reader.state with
  | .startRecord | .inQuotedField => reader
  | .startField | .inField | .quoteInQuotedField => { reader.save with state := .startRecord }
  | .eatCrnl => { reader with state := .startRecord }

/-- The lines of a text, each with the line feed that ends it. -/
def lines : List Char → List (List Char)
  | [] => []
  | c :: text =>
    if c = '\n' then [c] :: lines text
    else
      match lines text with
      | [] => [[c]]
      | line :: rest => (c :: line) :: rest

/-- The records from a reader on, and the error they end with. -/
def readRows (dialect : Dialect) : Reader → List (List Char) → List (List String) × Option Error
  | reader, [] => (if reader.state = .inQuotedField then [reader.save.fields] else [], none)
  | reader, line :: rest =>
    match line.foldlM (Reader.process dialect) reader with
    | .error failure => ([], some failure)
    | .ok reader =>
      let reader := reader.endLine
      if reader.state = .startRecord then
        let later := readRows dialect {} rest
        (reader.fields :: later.1, later.2)
      else readRows dialect reader rest

/-- `csv.reader(io.StringIO(text))` -/
def rows (dialect : Dialect) (text : String) : List (List String) × Option Error :=
  readRows dialect {} (lines text.toList)

/-! ## Records by column -/

/-- What a record of a `DictReader` has in a column. -/
inductive Value where
  | text (value : String)
  /-- `restval` -/
  | missing
  /-- The fields under `restkey`. -/
  | rest (values : List String)

/-- A record by column; no name stands for `restkey`. -/
abbrev Record : Type := Dict (Option String) Value

/-- `DictReader.__next__` on a row. -/
def record (header row : List String) : Record :=
  let known := Dict.ofList ((header.zip row).map fun (name, value) => (some name, Value.text value))
  if header.length < row.length then known.set none (.rest (row.drop header.length))
  else (header.drop row.length).foldl (fun found name => found.set (some name) .missing) known

/-- The records of a `DictReader` after its header; empty rows are passed over. -/
def records (header : List String) (rows : List (List String)) : List Record :=
  (rows.filter fun row => !row.isEmpty).map (record header)

/-- A quoted field keeps delimiters, line ends and doubled quotes. -/
example : rows excel "a,\x22b\x22\x22,\nc\x22\r\n\nd" =
    ([["a", "b\x22,\nc"], [], ["d"]], none) := by decide +kernel

/-- A carriage return in a line that goes on is an error, after the records before it. -/
example : rows excel "a\nb\rc" = ([["a"]], some .newLine) := by decide +kernel

end MarketingOS.Csv
