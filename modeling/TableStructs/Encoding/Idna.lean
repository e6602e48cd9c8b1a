import TableStructs.Encoding.Punycode

/-!
IDNA (RFC 3490), an encoding for names of hosts that takes any text as labels between dots. A label
of ASCII stands for itself; any other is prepared and then written in Punycode behind a mark. What
preparing does (RFC 3491) is a parameter here.

A reader and a writer keep the last label until a dot ends it. Nothing ends the last label of a
file that is written, and so it is never written.
-/
namespace TableStructs.Encoding.Idna

/-- How labels outside ASCII are prepared, or what is said about one that cannot be. -/
abbrev Preparation := Text → Except Text Text

/-- Refuses them all. -/
def asciiOnly : Preparation := fun _ => .error "label outside ASCII".toText

/-- The mark of a label in Punycode. -/
def mark : Text := "xn--".toText

/-- The code points that are dots between labels. -/
def isDot (c : CodePoint) : Bool := [0x2E, 0x3002, 0xFF0E, 0xFF61].contains c.toNat

/-- The labels of a text. -/
def labels (s : Text) : List Text :=
  Text.split '.' (s.map fun c => if isDot c then '.' else c)

/-! ### Labels -/

/-- A label that is neither empty nor longer than 63 bytes. -/
def sized (label : List UInt8) : Except EncodeError (List UInt8) :=
  if 0 < label.length ∧ label.length < 64 then .ok label
  else .error (.rule "label empty or too long".toText)

/-- A label as bytes. -/
def encodeLabel (prepare : Preparation) (label : Text) : Except EncodeError (List UInt8) :=
  match ascii.encode label with
  | .ok bytes => sized bytes
  | .error _ =>
    match prepare label with
    | .error reason => .error (.rule reason)
    | .ok label =>
      match ascii.encode label with
      | .ok bytes => sized bytes
      | .error _ =>
        if mark.isPrefixOf label then .error (.rule "Label starts with ACE prefix".toText)
        else sized (mark.map (fun c => UInt8.ofNat c.toNat) ++ Punycode.encode label)

/-- Labels one after the other with a dot between them. -/
def encodeLabels (prepare : Preparation) (labels : List Text) : Except EncodeError (List UInt8) := do
  return [0x2E].intercalate (← labels.mapM (encodeLabel prepare))

/-- The text of a label that is given in ASCII. One in Punycode has to be the label of its text. -/
def decodeLabel (prepare : Preparation) (label : Text) : Except DecodeError Text :=
  if !mark.isPrefixOf label then .ok label
  else
    match Punycode.decode ((label.drop mark.length).map fun c => UInt8.ofNat c.toNat) with
    | .error e =>
      .error <| .rule <|
        "decoding with 'punycode' codec failed (UnicodeError: ".toText ++ e.message ++ ")".toText
    | .ok text =>
      match encodeLabel prepare text with
      | .error e => .error (.rule e.message)
      | .ok bytes =>
        let back : Text := bytes.map fun b => .ofNat b.toNat
        if label.map (·.toLower) = back then .ok text
        else
          .error <| .rule <|
            "('IDNA does not round-trip', b".toText ++ Text.quoted label ++ ", b".toText ++
              Text.quoted back ++ ")".toText

/-! ### Texts -/

/-- A text as bytes. -/
def encode (prepare : Preparation) (s : Text) : Except EncodeError (List UInt8) :=
  match ascii.encode s with
  | .ok bytes =>
    let labels := Text.split '.' s
    if s.isEmpty then .ok []
    else if labels.dropLast.any fun label => label.isEmpty || 64 ≤ label.length then
      .error (.rule "label empty or too long".toText)
    else if labels.getLast?.any (64 ≤ ·.length) then .error (.rule "label too long".toText)
    else .ok bytes
  | .error _ =>
    if (labels s).getLast? = some [] then
      (encodeLabels prepare (labels s).dropLast).map (· ++ [0x2E])
    else encodeLabels prepare (labels s)

/-- The bytes that a file gets: the labels up to the last dot. -/
def write (prepare : Preparation) (s : Text) : Except EncodeError (List UInt8) :=
  match (labels s).dropLast with
  | [] => .ok []
  | whole => (encodeLabels prepare whole).map (· ++ [0x2E])

/-- How many bytes labels are taken for: a dot counts only behind bytes that have been counted. -/
def used (labels : List Text) : Nat :=
  labels.foldl (fun n label => (if n = 0 then 0 else n + 1) + label.length) 0

/-- Reads labels up to the last dot, and behind it where no more bytes come. -/
def scan (prepare : Preparation) (final : Bool) (bytes : List UInt8) :
    Except DecodeError (Text × List UInt8) := do
  if bytes.isEmpty then return ([], [])
  let labels := Text.split '.' (← decodeBytes "ascii".toText 128 bytes)
  let ended := labels.getLast? = some []
  let whole := if ended || !final then labels.dropLast else labels
  let dot := if ended || (!final && !whole.isEmpty) then ".".toText else []
  let texts ← whole.mapM (decodeLabel prepare)
  return (".".toText.intercalate texts ++ dot, bytes.drop (used whole + dot.length))

/-- Reads all that is left. Empty labels at the front may leave bytes that are read once more;
`fuel` bounds how often, and each time takes a byte at least. -/
def finish (prepare : Preparation) : (fuel : Nat) → List UInt8 → Decoded
  | 0, _ => {}
  | fuel + 1, bytes =>
    if bytes.isEmpty then {}
    else
      match scan prepare true bytes with
      | .error e => { failure := some e }
      | .ok (text, rest) => (finish prepare fuel rest).behind text

end Idna

/-- IDNA. -/
def idna (prepare : Idna.Preparation) : Encoding :=
  buffered (Idna.encode prepare) (Idna.write prepare) (Idna.scan prepare false) fun bytes =>
    Idna.finish prepare bytes.length bytes

end TableStructs.Encoding
