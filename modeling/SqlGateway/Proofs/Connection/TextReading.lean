import Mathlib.Data.List.Basic
import SqlGateway.Connection.Text

namespace SqlGateway
namespace ConnectionText

/-!
# Reading connection texts

A driver reads a connection text from left to right.  A keyword goes up to the first equals sign.
Its value stands between braces, where two closing braces stand for one and a single one ends the
value, or it goes up to the next semicolon and loses the blanks around it.

Here the reader is written down on its own, and what is written for a connection is read back as
what was meant.  So no value is taken for more than a value, whatever it holds.  Nothing is
assumed of the blanks that the driver knows, but that they are blank to the library as well.
-/

/-! ## The reader -/

/-- How far a reader is in the text of one keyword. -/
inductive Place where
  /-- In the keyword. -/
  | keyword (read : List Char)
  /-- After the equals sign. -/
  | start (keyword : List Char)
  /-- In a value without braces. -/
  | bare (keyword read : List Char)
  /-- In a value between braces. -/
  | braced (keyword read : List Char)
  /-- After a closing brace, which ends the value unless another one follows. -/
  | closing (keyword read : List Char)

/-- The characters without what is blank to a driver at either end. -/
def trimmed (blank : Char → Bool) (characters : List Char) : List Char :=
  ((characters.dropWhile blank).reverse.dropWhile blank).reverse

def pair (keyword value : List Char) : String × String :=
  (String.ofList keyword, String.ofList value)

/-- Read from a place on.  A text that breaks off in a keyword or between braces cannot be read,
and nothing may stand between a closing brace and the next semicolon. -/
def readFrom (blank : Char → Bool) : Place → List Char → Option (List (String × String))
  | .keyword [], [] => some []
  | .keyword _, [] => none
  | .keyword read, character :: rest =>
    if character = '=' then readFrom blank (.start read) rest
    else readFrom blank (.keyword (read ++ [character])) rest
  | .start keyword, [] => some [pair keyword []]
  | .start keyword, character :: rest =>
    if character = '\x7b' then readFrom blank (.braced keyword []) rest
    else if character = ';' then
      (readFrom blank (.keyword []) rest).map (pair keyword [] :: ·)
    else readFrom blank (.bare keyword [character]) rest
  | .bare keyword read, [] => some [pair keyword (trimmed blank read)]
  | .bare keyword read, character :: rest =>
    if character = ';' then
      (readFrom blank (.keyword []) rest).map (pair keyword (trimmed blank read) :: ·)
    else readFrom blank (.bare keyword (read ++ [character])) rest
  | .braced _ _, [] => none
  | .braced keyword read, character :: rest =>
    if character = '\x7d' then readFrom blank (.closing keyword read) rest
    else readFrom blank (.braced keyword (read ++ [character])) rest
  | .closing keyword read, [] => some [pair keyword read]
  | .closing keyword read, character :: rest =>
    if character = '\x7d' then readFrom blank (.braced keyword (read ++ ['\x7d'])) rest
    else if character = ';' then
      (readFrom blank (.keyword []) rest).map (pair keyword read :: ·)
    else none

/-- The keywords of a connection text with their values, in order. -/
def read (blank : Char → Bool) (text : String) : Option (List (String × String)) :=
  readFrom blank (.keyword []) text.toList

section Reading

variable {blank : Char → Bool}

theorem readFrom_keyword (keyword : List Char) (free : '=' ∉ keyword) (read rest : List Char) :
    readFrom blank (.keyword read) (keyword ++ '=' :: rest) =
      readFrom blank (.start (read ++ keyword)) rest := by
  induction keyword generalizing read with
  | nil => simp [readFrom]
  | cons character keyword inductionHypothesis =>
      simp only [List.mem_cons, not_or] at free
      have other : character ≠ '=' := fun same => free.1 same.symm
      rw [List.cons_append, readFrom, if_neg other, inductionHypothesis free.2,
        List.append_assoc, List.singleton_append]

theorem readFrom_bare (value : List Char) (free : ';' ∉ value) (keyword read rest : List Char) :
    readFrom blank (.bare keyword read) (value ++ rest) =
      readFrom blank (.bare keyword (read ++ value)) rest := by
  induction value generalizing read with
  | nil => simp
  | cons character value inductionHypothesis =>
      simp only [List.mem_cons, not_or] at free
      have other : character ≠ ';' := fun same => free.1 same.symm
      rw [List.cons_append, readFrom, if_neg other, inductionHypothesis free.2,
        List.append_assoc, List.singleton_append]

/-- Between braces a doubled closing brace is read as one, and all else as it is. -/
theorem readFrom_braced (value keyword read rest : List Char) :
    readFrom blank (.braced keyword read)
        (Text.replace ['\x7d'] ['\x7d', '\x7d'] value ++ rest) =
      readFrom blank (.braced keyword (read ++ value)) rest := by
  rw [Text.replace_single]
  induction value generalizing read with
  | nil => simp
  | cons character value inductionHypothesis =>
      rw [List.flatMap_cons, List.append_assoc]
      by_cases brace : character = '\x7d'
      · rw [if_pos brace, List.cons_append, List.singleton_append, readFrom, if_pos rfl, readFrom,
          if_pos rfl, inductionHypothesis, List.append_assoc, List.singleton_append, brace]
      · rw [if_neg brace, List.singleton_append, readFrom, if_neg brace, inductionHypothesis,
          List.append_assoc, List.singleton_append]

end Reading

/-! ## Values that stand as they are -/

/-- Characters that lose nothing at their start lose nothing there to a narrower class. -/
theorem dropWhile_of_narrower {wide narrow : Char → Bool} {characters : List Char}
    (within : forall character, narrow character = true -> wide character = true)
    (kept : characters.dropWhile wide = characters) :
    characters.dropWhile narrow = characters := by
  cases characters with
  | nil => rfl
  | cons character rest =>
      apply List.dropWhile_cons_of_neg
      intro blank
      rw [List.dropWhile_cons_of_pos (within character blank)] at kept
      have shorter := (List.dropWhile_suffix (l := rest) wide).length_le
      rw [kept, List.length_cons] at shorter
      omega

/-- What the library does not trim, no driver trims. -/
theorem trimmed_of_trimChars {blank : Char → Bool} {value : List Char}
    (within : forall character, blank character = true -> Text.isBlank character = true)
    (kept : Text.trimChars value = value) : trimmed blank value = value := by
  have front := List.dropWhile_suffix (l := value) Text.isBlank
  have back := List.dropWhile_suffix (l := (value.dropWhile Text.isBlank).reverse) Text.isBlank
  have length := congrArg List.length kept
  rw [Text.trimChars, List.length_reverse] at length
  have frontKept : value.dropWhile Text.isBlank = value := by
    apply front.eq_of_length
    have frontShorter := front.length_le
    have backShorter := back.length_le
    rw [List.length_reverse] at backShorter
    omega
  have backKept : value.reverse.dropWhile Text.isBlank = value.reverse := by
    rw [frontKept] at back length
    apply back.eq_of_length
    rw [length, List.length_reverse]
  rw [trimmed, dropWhile_of_narrower within frontKept, dropWhile_of_narrower within backKept,
    List.reverse_reverse]

theorem not_mem_of_isPlain {value : List Char} (plain : isPlain value = true) {mark : Char}
    (marks : isMark mark = true) : mark ∉ value := by
  intro member
  simp only [isPlain, Bool.and_eq_true, Bool.not_eq_true', List.any_eq_false] at plain
  exact plain.1 mark member marks

theorem trimmed_of_isPlain {blank : Char → Bool} {value : List Char}
    (within : forall character, blank character = true -> Text.isBlank character = true)
    (plain : isPlain value = true) : trimmed blank value = value := by
  simp only [isPlain, Bool.and_eq_true, beq_iff_eq] at plain
  exact trimmed_of_trimChars within plain.2

/-! ## What is written is read -/

/-- What is read after a value, where only a semicolon or the end may follow. -/
def readOn (blank : Char → Bool) : List Char → Option (List (String × String))
  | [] => some []
  | _ :: rest => readFrom blank (.keyword []) rest

section Written

variable {blank : Char → Bool}
  (within : forall character, blank character = true -> Text.isBlank character = true)
include within

/-- A value is read as it was, whether it was written with braces or without. -/
theorem readFrom_valueChars (keyword value : List Char) {rest : List Char}
    (ends : rest = [] ∨ rest.head? = some ';') :
    readFrom blank (.start keyword) (valueChars value ++ rest) =
      (readOn blank rest).map (pair keyword value :: ·) := by
  unfold valueChars
  split
  · rename_i plain
    have unseparated : ';' ∉ value := not_mem_of_isPlain plain rfl
    have unbraced : '\x7b' ∉ value := not_mem_of_isPlain plain rfl
    have untrimmed := trimmed_of_isPlain within plain
    cases value with
    | nil =>
        rcases ends with rfl | separated
        · rfl
        · rcases List.head?_eq_some_iff.mp separated with ⟨rest, rfl⟩
          rfl
    | cons character value =>
        simp only [List.mem_cons, not_or] at unseparated unbraced
        rw [List.cons_append, readFrom, if_neg fun same => unbraced.1 same.symm,
          if_neg fun same => unseparated.1 same.symm, readFrom_bare value unseparated.2,
          List.singleton_append]
        rcases ends with rfl | separated
        · rw [readFrom, untrimmed]
          rfl
        · rcases List.head?_eq_some_iff.mp separated with ⟨rest, rfl⟩
          rw [readFrom, if_pos rfl, untrimmed]
          rfl
  · rw [List.cons_append, List.append_assoc, readFrom, if_pos rfl, readFrom_braced,
      List.nil_append, List.singleton_append, readFrom, if_pos rfl]
    rcases ends with rfl | separated
    · rfl
    · rcases List.head?_eq_some_iff.mp separated with ⟨rest, rfl⟩
      rfl

/-- Keywords without an equals sign are read with their values, in order. -/
theorem readFrom_chars (entries : List (String × List Char))
    (free : forall entry, entry ∈ entries -> '=' ∉ entry.1.toList) :
    readFrom blank (.keyword []) (chars entries) =
      some (entries.map fun entry => (entry.1, String.ofList entry.2)) := by
  have same (keyword : String) (value : List Char) :
      pair keyword.toList value = (keyword, String.ofList value) := by
    rw [pair, String.ofList_toList]
  induction entries with
  | nil => rfl
  | cons entry entries inductionHypothesis =>
      rcases entry with ⟨keyword, value⟩
      have own := free _ List.mem_cons_self
      have others := inductionHypothesis fun entry member =>
        free entry (List.mem_cons_of_mem _ member)
      cases entries with
      | nil =>
          have ended := readFrom_valueChars within keyword.toList value (Or.inl rfl)
          rw [List.append_nil] at ended
          rw [chars, readFrom_keyword _ own, List.nil_append, ended, same]
          rfl
      | cons next entries =>
          change readFrom blank (.keyword []) (keyword.toList ++ '=' ::
            (valueChars value ++ ';' :: chars (next :: entries))) = _
          rw [readFrom_keyword _ own, List.nil_append,
            readFrom_valueChars within _ _ (Or.inr rfl), readOn, others, same]
          rfl

end Written

/-- A value is read as it was, with the blanks around it, and with what else would end it. -/
example : readFrom Char.isWhitespace (.keyword [])
    (chars [("UID", " me ".toList), ("PWD", "a;b=\x7d".toList)]) =
      some [("UID", " me "), ("PWD", "a;b=\x7d")] := by
  decide

/-! ## What is meant

The fields of a connection are listed here on their own: each keyword with the text of its value,
and nothing where the value is missing.  Of a value without a text nothing is meant.
-/

/-- The text of a value, if it has one. -/
def textOf (value : Value) : Option String := value.toText.toOption

/-- What is meant by a keyword with a value. -/
def field (keyword : String) (value : Value) : Option (List (String × String)) :=
  if value.isNull then some []
  else (textOf value).map fun text => [(keyword, text)]

/-- What is meant by the server: its name, and the number of the port after a comma. -/
def serverField (params : ConnectionParams) : Option (List (String × String)) :=
  match params.port with
  | none | some 0 => field "SERVER" params.host
  | some number => do
    let host ← textOf params.host
    let port ← Numeral.write? number
    return [("SERVER", host ++ "," ++ port)]

/-- What is meant by a switch: the answer to it if it is set. -/
def switchField (keyword : String) (setting : Option Value) : List (String × String) :=
  match setting with
  | some value => [(keyword, if value.isTrue then "yes" else "no")]
  | none => []

/-- What is meant by a connection. -/
def meant (params : ConnectionParams) (options : List (String × Value)) :
    Option (List (String × String)) := do
  return (← field "DRIVER" (optionValue options "driver")) ++
    (← field "DSN" (optionValue options "dsn")) ++
    (← serverField params) ++
    (← field "DATABASE" params.database) ++
    (← field "UID" params.username) ++
    (← field "PWD" params.password) ++
    switchField "Encrypt" (options.lookup "encrypt") ++
    switchField "TrustServerCertificate" (options.lookup "trust_server_certificate")

/-- Entries as a reader shows them. -/
def shown (entries : List (String × List Char)) : List (String × String) :=
  entries.map fun entry => (entry.1, String.ofList entry.2)

theorem shown_cons (keyword text : String) (entries : List (String × List Char)) :
    shown ((keyword, text.toList) :: entries) = (keyword, text) :: shown entries := by
  rw [shown, List.map_cons, String.ofList_toList]
  rfl

/-- What is asked for by keywords with values, in texts. -/
def asked (fields : List (String × Value)) : Option (List (String × String)) :=
  (written fields).toOption.map shown

theorem asked_cons (keyword : String) (value : Value) (rest : List (String × Value)) :
    asked ((keyword, value) :: rest) =
      (textOf value).bind fun text => (asked rest).map ((keyword, text) :: ·) := by
  unfold asked textOf
  rw [written]
  cases value.toText with
  | error fault => rfl
  | ok text =>
      cases written rest with
      | error fault => rfl
      | ok entries => exact congrArg some (shown_cons keyword text entries)

theorem asked_append (front back : List (String × Value)) :
    asked (front ++ back) = (asked front).bind fun first => (asked back).map (first ++ ·) := by
  induction front with
  | nil =>
      change asked back = (asked back).map fun rest => [] ++ rest
      simp
  | cons entry front inductionHypothesis =>
      rcases entry with ⟨keyword, value⟩
      rw [List.cons_append, asked_cons, asked_cons, inductionHypothesis]
      cases textOf value with
      | none => rfl
      | some text =>
          cases asked front with
          | none => rfl
          | some first => cases asked back <;> rfl

/-- A missing value leaves its keyword out. -/
theorem asked_field (keyword : String) (value : Value) :
    asked ([(keyword, value)].filter fun field => !field.2.isNull) = field keyword value := by
  unfold field
  cases missing : value.isNull with
  | true => simp [missing, asked, written, shown, Except.toOption]
  | false =>
      rw [List.filter_cons_of_pos (by simp [missing]), List.filter_nil, asked_cons]
      cases textOf value <;> rfl

theorem asked_switch (keyword : String) (setting : Option Value) :
    asked (setting.map fun value => (keyword, switchText value)).toList =
      some (switchField keyword setting) := by
  cases setting with
  | none => rfl
  | some value => exact congrArg some (shown_cons keyword _ [])

theorem server_meant (params : ConnectionParams) :
    (server params).toOption.bind (field "SERVER") = serverField params := by
  have unnamed (named : params.hasPort = false) :
      (server params).toOption.bind (field "SERVER") = field "SERVER" params.host := by
    rw [server, named]
    rfl
  unfold serverField
  split
  · rename_i absent
    exact unnamed (by rw [ConnectionParams.hasPort, absent]; rfl)
  · rename_i zero
    exact unnamed (by rw [ConnectionParams.hasPort, zero]; rfl)
  · rename_i number nonzero given
    have named : params.hasPort = true := by
      rw [ConnectionParams.hasPort, given]
      exact decide_eq_true nonzero
    have numeral : (textOf (.int number)) = Numeral.write? number := by
      change (Value.intText number).toOption = Numeral.write? number
      unfold Value.intText
      cases Numeral.write? number <;> rfl
    rw [server, if_pos named, ConnectionParams.portValue, given, ← numeral, textOf, textOf]
    cases params.host.toText with
    | error fault => rfl
    | ok host => cases (Value.int number).toText <;> rfl

/-- A missing first value leaves its keyword out, and the others as they are. -/
theorem asked_present (keyword : String) (value : Value) (rest : List (String × Value)) :
    asked (((keyword, value) :: rest).filter fun field => !field.2.isNull) =
      (field keyword value).bind fun first =>
        (asked (rest.filter fun field => !field.2.isNull)).map (first ++ ·) := by
  rw [← asked_field, ← asked_append, ← List.filter_append, List.singleton_append]

/-- The keywords that are written are those that are meant, with the texts that are meant. -/
theorem asked_keywords (params : ConnectionParams) (options : List (String × Value)) :
    (keywords params options).toOption.bind asked = meant params options := by
  unfold keywords meant
  rw [← server_meant]
  cases server params with
  | error fault => simp [Except.toOption]
  | ok server =>
      let asks (switch : String × String) : Option (String × Value) :=
        (options.lookup switch.2).map fun setting => (switch.1, switchText setting)
      have switches :
          [("Encrypt", "encrypt"),
            ("TrustServerCertificate", "trust_server_certificate")].filterMap asks =
            ((options.lookup "encrypt").map fun setting =>
                ("Encrypt", switchText setting)).toList ++
              ((options.lookup "trust_server_certificate").map fun setting =>
                ("TrustServerCertificate", switchText setting)).toList := by
        cases encrypt : options.lookup "encrypt" <;>
          cases trust : options.lookup "trust_server_certificate" <;> simp [asks, encrypt, trust]
      change asked (_ ++ List.filterMap asks _) = _
      rw [switches]
      have nothing : asked [] = some [] := rfl
      have present : (Except.ok server : Except Fault Value).toOption = some server := rfl
      simp only [asked_append, asked_present, asked_switch, List.filter_nil, nothing, present,
        Option.map_bind, Option.bind_assoc, Option.map_some, Option.bind_some, Option.bind_eq_bind,
        Option.pure_def, Function.comp_def, List.append_assoc, List.nil_append]

/-! ## Every connection text is read as it was meant -/

theorem written_names {fields : List (String × Value)} {entries : List (String × List Char)}
    (writes : written fields = .ok entries) : entries.map Prod.fst = fields.map Prod.fst := by
  induction fields generalizing entries with
  | nil =>
      cases writes
      rfl
  | cons field fields inductionHypothesis =>
      rcases field with ⟨keyword, value⟩
      rw [written] at writes
      cases text : value.toText with
      | error fault =>
          rw [text] at writes
          cases writes
      | ok content =>
          cases rest : written fields with
          | error fault =>
              rw [text, rest] at writes
              cases writes
          | ok others =>
              rw [text, rest] at writes
              cases writes
              rw [List.map_cons, List.map_cons, inductionHypothesis rest]

/-- No keyword holds an equals sign. -/
theorem keywords_free {params : ConnectionParams} {options fields : List (String × Value)}
    (asks : keywords params options = .ok fields) :
    forall keyword, keyword ∈ fields.map Prod.fst -> '=' ∉ keyword.toList := by
  have known : forall keyword, keyword ∈ fields.map Prod.fst ->
      keyword ∈ ["DRIVER", "DSN", "SERVER", "DATABASE", "UID", "PWD", "Encrypt",
        "TrustServerCertificate"] := by
    unfold keywords at asks
    cases named : server params with
    | error fault =>
        rw [named] at asks
        cases asks
    | ok server =>
        rw [named] at asks
        cases asks
        intro keyword member
        rw [List.map_append, List.mem_append] at member
        rcases member with field | switch
        · have among := (List.filter_sublist.map Prod.fst).subset field
          simp only [List.map_cons, List.map_nil, List.mem_cons, List.not_mem_nil] at among ⊢
          grind
        · rcases List.mem_map.mp switch with ⟨entry, member, rfl⟩
          rcases List.mem_filterMap.mp member with ⟨source, listed, set⟩
          rcases Option.map_eq_some_iff.mp set with ⟨setting, looked, rfl⟩
          simp only [List.mem_cons, List.not_mem_nil, or_false] at listed
          rcases listed with rfl | rfl <;> simp
  have free : forall keyword, keyword ∈ ["DRIVER", "DSN", "SERVER", "DATABASE", "UID", "PWD",
      "Encrypt", "TrustServerCertificate"] -> '=' ∉ keyword.toList := by
    decide
  intro keyword member
  exact free keyword (known keyword member)

/-- Whether a value is missing or a text. -/
def IsTextual (value : Value) : Prop := value = .null ∨ exists content, value = .text content

theorem field_of_isTextual (keyword : String) {value : Value} (textual : IsTextual value) :
    (field keyword value).isSome := by
  rcases textual with rfl | ⟨content, rfl⟩ <;> rfl

theorem serverField_of_isTextual {params : ConnectionParams} (textual : IsTextual params.host)
    (numbered : forall number, params.port = some number -> (Numeral.write? number).isSome) :
    exists entries, serverField params = some entries := by
  have named : exists text, textOf params.host = some text := by
    rcases textual with missing | ⟨content, given⟩
    · exact ⟨"None", by rw [missing]; rfl⟩
    · exact ⟨content, by rw [given]; rfl⟩
  unfold serverField
  split
  · exact Option.isSome_iff_exists.mp (field_of_isTextual "SERVER" textual)
  · exact Option.isSome_iff_exists.mp (field_of_isTextual "SERVER" textual)
  · rename_i number nonzero given
    rcases named with ⟨host, isHost⟩
    rcases Option.isSome_iff_exists.mp (numbered number given) with ⟨port, isPort⟩
    rw [isHost, isPort]
    exact ⟨_, rfl⟩

/-- For every connection the text is read as the keywords that were meant, with their values, in
order, or there is no text because one of the values has none.  It is there whenever the fields
are texts or missing and the number of the port can be written. -/
theorem read_ofParams {blank : Char → Bool}
    (within : forall character, blank character = true -> Text.isBlank character = true)
    (params : ConnectionParams) (options : List (String × Value)) :
    (ofParams params options).toOption.map (read blank) = (meant params options).map some ∧
      ((forall value, value ∈ [optionValue options "driver", optionValue options "dsn",
          params.host, params.database, params.username, params.password] -> IsTextual value) ->
        (forall number, params.port = some number -> (Numeral.write? number).isSome) ->
        (meant params options).isSome) := by
  constructor
  · rw [← asked_keywords]
    unfold ofParams
    cases asks : keywords params options with
    | error fault => rfl
    | ok fields =>
        change ((do return String.ofList (chars (← written fields))) :
          Except Fault String).toOption.map (read blank) = (asked fields).map some
        unfold asked
        cases writes : written fields with
        | error fault => rfl
        | ok entries =>
            have free : forall entry, entry ∈ entries -> '=' ∉ entry.1.toList := by
              intro entry member
              apply keywords_free asks
              rw [← written_names writes]
              exact List.mem_map_of_mem member
            change some (read blank (String.ofList (chars entries))) = some (some (shown entries))
            rw [read, String.toList_ofList, readFrom_chars within entries free, shown]
  · intro textual numbered
    have present (keyword : String) (value : Value) (listed : value ∈
        [optionValue options "driver", optionValue options "dsn", params.host, params.database,
          params.username, params.password]) : exists entries, field keyword value = some entries :=
      Option.isSome_iff_exists.mp (field_of_isTextual keyword (textual value listed))
    rcases present "DRIVER" (optionValue options "driver") (by simp) with ⟨driver, isDriver⟩
    rcases present "DSN" (optionValue options "dsn") (by simp) with ⟨source, isSource⟩
    rcases present "DATABASE" params.database (by simp) with ⟨database, isDatabase⟩
    rcases present "UID" params.username (by simp) with ⟨user, isUser⟩
    rcases present "PWD" params.password (by simp) with ⟨password, isPassword⟩
    rcases serverField_of_isTextual (textual params.host (by simp)) numbered with
      ⟨server, isServer⟩
    rw [meant, isDriver, isSource, isServer, isDatabase, isUser, isPassword]
    rfl

/-- A connection whose password spells out other keywords. -/
def spelling : ConnectionParams where
  dialect := .bracketQuoted "odbc" .question "odbc"
  database := .text "main"
  host := .text "server"
  port := some 1433
  username := .text " me "
  password := .text "\x7d;UID=other;\x7b"
  options := []

/-- The password stays one value, braces and all, and the blanks of the name are kept. -/
theorem read_ofParams_spelling :
    (ofParams spelling [("encrypt", .bool true)]).toOption.map (read Char.isWhitespace) =
        some (some [("SERVER", "server,1433"), ("DATABASE", "main"), ("UID", " me "),
          ("PWD", "\x7d;UID=other;\x7b"), ("Encrypt", "yes")]) ∧
      (meant spelling [("encrypt", .bool true)]).isSome := by
  have reads := read_ofParams Text.isBlank_of_isWhitespace spelling [("encrypt", .bool true)]
  constructor
  · rw [reads.1]
    rfl
  · apply reads.2
    · intro value listed
      change value ∈ [Value.null, .null, .text "server", .text "main", .text " me ",
        .text "\x7d;UID=other;\x7b"] at listed
      simp only [List.mem_cons, List.not_mem_nil, or_false] at listed
      rcases listed with rfl | rfl | rfl | rfl | rfl | rfl <;> simp [IsTextual]
    · intro number given
      cases given
      rfl

end ConnectionText
end SqlGateway
