import Bnl.Codec.Qpack.DecodeGenerated
import Bnl.Codec.Qpack.EncodeGenerated
import Bnl.Library.Groups
import Mathlib.Data.List.Lex

/-!
# `generate_qpack.py`

The generator of the two halves of the static table. The lines are split into words, sorted by the name and
grouped; each group makes a case of `find_index`, each line a case of the decoder's switches. What is written
into the templates is modelled, not the templates. Text is UTF-8, whose order is that of the characters; an
index that is no decimal constant does not compile, which is `none` here.

Sorting and grouping are those of the library, and stable: lines of one name stay in the order of the table. The
functions behind the templates, which search the cases, stand at the end with the cases as an argument, so that
what the generated files do can be said of any table.
-/

namespace Bnl.Http3.Tools.GenerateQpack

open Qpack.Table.Fixed (NameCase IndexType)

/-! ## The table -/

/-- The lines of `static_table_raw`. -/
def staticTableRaw : List String := [
  "0 \t:authority", "1 \t:path \t/", "2 \tage \t0", "3 \tcontent-disposition", "4 \tcontent-length \t0",
  "5 \tcookie", "6 \tdate", "7 \tetag", "8 \tif-modified-since", "9 \tif-none-match", "10 \tlast-modified",
  "12 \tlocation", "11 \tlink", "13 \treferer", "14 \tset-cookie", "15 \t:method \tCONNECT", "16 \t:method \tDELETE",
  "17 \t:method \tGET", "18 \t:method \tHEAD", "19 \t:method \tOPTIONS", "20 \t:method \tPOST", "21 \t:method \tPUT",
  "22 \t:scheme \thttp", "23 \t:scheme \thttps", "24 \t:status \t103", "25 \t:status \t200", "26 \t:status \t304",
  "27 \t:status \t404", "28 \t:status \t503", "29 \taccept \t*/*", "30 \taccept \tapplication/dns-message",
  "31 \taccept-encoding \tgzip, deflate, br", "32 \taccept-ranges \tbytes",
  "33 \taccess-control-allow-headers \tcache-control", "34 \taccess-control-allow-headers \tcontent-type",
  "35 \taccess-control-allow-origin \t*", "36 \tcache-control \tmax-age=0", "37 \tcache-control \tmax-age=2592000",
  "38 \tcache-control \tmax-age=604800", "39 \tcache-control \tno-cache", "40 \tcache-control \tno-store",
  "41 \tcache-control \tpublic, max-age=31536000", "42 \tcontent-encoding \tbr", "43 \tcontent-encoding \tgzip",
  "44 \tcontent-type \tapplication/dns-message", "45 \tcontent-type \tapplication/javascript",
  "46 \tcontent-type \tapplication/json", "47 \tcontent-type \tapplication/x-www-form-urlencoded",
  "48 \tcontent-type \timage/gif", "49 \tcontent-type \timage/jpeg", "50 \tcontent-type \timage/png",
  "51 \tcontent-type \ttext/css", "52 \tcontent-type \ttext/html; charset=utf-8", "53 \tcontent-type \ttext/plain",
  "54 \tcontent-type \ttext/plain;charset=utf-8", "55 \trange \tbytes=0-",
  "56 \tstrict-transport-security \tmax-age=31536000",
  "57 \tstrict-transport-security \tmax-age=31536000; includesubdomains",
  "58 \tstrict-transport-security \tmax-age=31536000; includesubdomains; preload", "59 \tvary \taccept-encoding",
  "60 \tvary \torigin", "61 \tx-content-type-options \tnosniff", "62 \tx-xss-protection \t1; mode=block",
  "63 \t:status \t100", "64 \t:status \t204", "65 \t:status \t206", "66 \t:status \t302", "67 \t:status \t400",
  "68 \t:status \t403", "69 \t:status \t421", "70 \t:status \t425", "71 \t:status \t500", "72 \taccept-language",
  "73 \taccess-control-allow-credentials \tFALSE", "74 \taccess-control-allow-credentials \tTRUE",
  "75 \taccess-control-allow-headers \t*", "76 \taccess-control-allow-methods \tget",
  "77 \taccess-control-allow-methods \tget, post, options", "78 \taccess-control-allow-methods \toptions",
  "79 \taccess-control-expose-headers \tcontent-length", "80 \taccess-control-request-headers \tcontent-type",
  "81 \taccess-control-request-method \tget", "82 \taccess-control-request-method \tpost", "83 \talt-svc \tclear",
  "84 \tauthorization", "85 \tcontent-security-policy \tscript-src 'none'; object-src 'none'; base-uri 'none'",
  "86 \tearly-data \t1", "87 \texpect-ct", "88 \tforwarded", "89 \tif-range", "90 \torigin",
  "91 \tpurpose \tprefetch", "92 \tserver", "93 \ttiming-allow-origin \t*", "94 \tupgrade-insecure-requests \t1",
  "95 \tuser-agent", "96 \tx-forwarded-for", "97 \tx-frame-options \tdeny", "98 \tx-frame-options \tsameorigin"]

/-- A word of a line, as bytes. -/
abbrev Word : Type := List UInt8

/-- What `split` takes for white space, of ASCII. -/
def isSpace (b : UInt8) : Bool := (0x09 ≤ b && b ≤ 0x0d) || (0x1c ≤ b && b ≤ 0x20)

/-- `line.split()`. -/
def split (line : Word) : List Word := (line.splitOnP isSpace).filter fun word => !word.isEmpty

/-- `str.join(" ", words)`. -/
def join (words : List Word) : Word := [0x20].intercalate words

/-- A line that was split. -/
structure Row where
  index : Nat
  name : Word
  words : List Word
  deriving DecidableEq, Repr

/-- The value, where there is one. -/
def Row.value (row : Row) : Option Word := if row.words.isEmpty then none else some (join row.words)

/-- A decimal constant of C++. -/
def decimal (word : Word) : Option Nat :=
  if word.isEmpty || word.any (fun b => b < 0x30 || 0x39 < b) || (word.head? == some 0x30 && word.length != 1) then none
  else some (word.foldl (fun n b => 10 * n + (b - 0x30).toNat) 0)

/-- `entry[0]` and `entry[1]`, and the words behind them. -/
def row : List Word → Option Row
  | index :: name :: words => (decimal index).map fun index => ⟨index, name, words⟩
  | _ => none

/-- `static_table`, before it is sorted. -/
def staticTable (lines : List String) : Option (List Row) :=
  ((lines.map fun line => split (ascii line)).filter fun entry => 2 ≤ entry.length).mapM row

/-! ## What is generated -/

section

variable (xxh64 : Word → UInt64) (rows : List Row)

/-- A case of `find_index`. The indices are those of all lines of the name. -/
def nameCase (header : Word) (entry : List Row) : NameCase :=
  let indices := entry.map Row.index
  let values := entry.filterMap Row.value
  let index := UInt8.ofNat (indices.headD 0)
  if values.isEmpty then ⟨xxh64 header, [], index⟩
  else
    let cases := (indices.zip values).map fun (index, value) => (xxh64 value, UInt8.ofNat index)
    ⟨xxh64 header, cases, index⟩

/-- The cases of `find_index`. -/
def nameCases : List NameCase :=
  (Groups.grouped Row.name (Groups.sorted Row.name rows)).map fun (header, entry) => nameCase xxh64 header entry

/-- The cases of `find_header_value`. -/
def headerValues : List (Nat × Word × Word) :=
  (Groups.sorted Row.name rows).filterMap fun row => row.value.map fun value => (row.index, row.name, value)

/-- The cases of `find_header_only`. -/
def headerNames : List (Nat × Word) := (Groups.sorted Row.name rows).map fun row => (row.index, row.name)

end

/-! ## What it does -/

/-- `find_index`. -/
def findIndex (cases : List NameCase) (xxh64 : Word → UInt64) (header : Header) : IndexType × UInt8 :=
  match cases.find? fun c => c.nameHash == xxh64 header.name with
  | none => (.missing, 0)
  | some c =>
    match c.values.find? fun v => v.1 == xxh64 header.value with
    | some v => (.headerValue, v.2)
    | none => (.headerOnly, c.only)

/-- `find_header_value`. -/
def findHeaderValue (cases : List (Nat × Word × Word)) (index : UInt8) : Option Header :=
  (cases.find? fun c => c.1 == index.toNat).map fun c => ⟨c.2.1, c.2.2⟩

/-- `find_header_only`. -/
def findHeaderOnly (cases : List (Nat × Word)) (index : UInt8) : Option Word :=
  (cases.find? fun c => c.1 == index.toNat).map Prod.snd

end Bnl.Http3.Tools.GenerateQpack
