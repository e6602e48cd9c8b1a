import TableStructs.Encoding.Idna
import TableStructs.Encoding.Utf8

/-!
What encodings are called. `Encoding.ofName` knows UTF-8, ASCII, Latin-1, Punycode and IDNA, and
tells names of transforms, which write bytes as bytes, from unknown ones.
-/
namespace TableStructs.Encoding

/-- Whether a name's character counts. All others, every one outside ASCII among them, only part its
words. -/
def isNameChar (c : CodePoint) : Bool := c.isAlphanum || c == .char '.'

/-- The words of a name in small letters, joined by underscores. `between` says that characters
which do not count have been passed, `empty` that no word has begun. -/
def plainFrom (between empty : Bool) : Text → Text
  | [] => []
  | c :: rest =>
    if isNameChar c then
      if between && !empty then .char '_' :: c.toLower :: plainFrom false false rest
      else c.toLower :: plainFrom false false rest
    else plainFrom true empty rest

/-- A name as it is looked up: `UTF-8`, `utf 8` and `utf_8` are one name. -/
def plainName (given : Text) : Text := plainFrom false true given

/-- What a name stands for. -/
inductive Named
  | text (encoding : Encoding)
  /-- A way to write bytes as other bytes, which encodes no texts. -/
  | transform

/-- The names by which the encodings and the transforms themselves go. -/
def firstNames (prepare : Idna.Preparation) : List (Named × List String) :=
  [ (.text utf8, ["utf_8"]), (.text ascii, ["ascii"]), (.text latin1, ["latin_1"]),
    (.text punycode, ["punycode"]), (.text (idna prepare), ["idna"]),
    (.transform, ["base64_codec", "bz2_codec", "hex_codec", "quopri_codec", "rot_13", "uu_codec",
      "zlib_codec"]) ]

/-- Their other names. -/
def otherNames : List (Named × List String) :=
  [ (.text utf8, ["utf8", "u8", "utf", "cp65001", "utf8_ucs2", "utf8_ucs4"]),
    (.text ascii, ["646", "ansi_x3.4_1968", "ansi_x3_4_1968", "ansi_x3.4_1986", "cp367", "csascii",
      "ibm367", "iso646_us", "iso_646.irv_1991", "iso_ir_6", "us", "us_ascii"]),
    (.text latin1, ["8859", "cp819", "csisolatin1", "ibm819", "iso8859", "iso8859_1", "iso_8859_1",
      "iso_8859_1_1987", "iso_ir_100", "l1", "latin", "latin1"]),
    (.transform, ["base64", "base_64", "bz2", "hex", "quopri", "quoted_printable",
      "quotedprintable", "rot13", "uu", "zip", "zlib"]) ]

/-- What a plain name stands for in a list of names. -/
def find? (names : List (Named × List String)) (plain : Text) : Option Named :=
  (names.find? fun entry => entry.2.any fun n => n.toText = plain).map (·.1)

/-- What a plain name stands for. Only in other names may a dot stand for an underscore. -/
def named? (prepare : Idna.Preparation) (plain : Text) : Option Named :=
  (find? otherNames plain <|>
      find? otherNames (plain.map fun c => if c = .char '.' then .char '_' else c)) <|>
    find? (firstNames prepare) plain

/-- Why a name is not that of an encoding. -/
inductive NameFault
  | unknown
  | transform
deriving DecidableEq

/-- What is said about a name. -/
def NameFault.message (name : Text) : NameFault → Text
  | unknown => "unknown encoding: ".toText ++ name
  | transform =>
    "'".toText ++ name ++
      "' is not a text encoding; use codecs.open() to handle arbitrary codecs".toText

/-- The encodings that there are, by their names. -/
abbrev Registry := Text → Except NameFault Encoding

/-- The encoding with a name. -/
def ofName (prepare : Idna.Preparation) : Registry := fun given =>
  match named? prepare (plainName given) with
  | some (.text encoding) => .ok encoding
  | some .transform => .error .transform
  | none => .error .unknown

end TableStructs.Encoding
