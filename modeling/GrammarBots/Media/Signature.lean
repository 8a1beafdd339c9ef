import GrammarBots.Text.Utf8

/-!
# Media signatures

The type of a payload is read off its first octets.  The formats are tried in one fixed order, and
the first that fits decides: a payload that fits an executable or a book before any picture or film
is no media, whatever else it fits.
-/

namespace GrammarBots

/-- A format and the test that recognises it. -/
structure Signature where
  /-- The MIME type, for formats that are media. -/
  mime? : Option String
  /-- Whether a payload is of the format. -/
  fits : Bytes → Bool

namespace Signature

/-! ### Tests -/

/-- Whether the payload has the given octets from an offset on. -/
def hasAt (offset : Nat) (octets : Bytes) (payload : Bytes) : Bool :=
  (payload.drop offset).take octets.length == octets

/-- Whether the payload has the given ASCII text from an offset on. -/
def hasTextAt (offset : Nat) (t : String) (payload : Bytes) : Bool :=
  hasAt offset (Utf8.encode t) payload

/-- The octet at an offset; beyond the end, zero. -/
def octetAt (offset : Nat) (payload : Bytes) : Nat := (payload.getD offset 0).toNat

/-- The number in the two octets from an offset on, most significant first. -/
def number16At (offset : Nat) (payload : Bytes) : Nat :=
  octetAt offset payload * 256 + octetAt (offset + 1) payload

/-- The number in the four octets from an offset on, most significant first. -/
def number32At (offset : Nat) (payload : Bytes) : Nat :=
  number16At offset payload * 65536 + number16At (offset + 2) payload

/-! ### Programs -/

/-- A compiled Java class: a version of at least 45. -/
def isJavaClass (b : Bytes) : Bool :=
  hasAt 0 [0xca, 0xfe, 0xba, 0xbe] b && 8 ≤ b.length && 45 ≤ number32At 4 b &&
    45 ≤ number16At 6 b

/-- A Mach-O image for one architecture or for several. -/
def isMachO (b : Bytes) : Bool :=
  hasAt 0 [0xce, 0xfa, 0xed, 0xfe] b || hasAt 0 [0xcf, 0xfa, 0xed, 0xfe] b ||
    hasAt 0 [0xfe, 0xed, 0xfa, 0xce] b || hasAt 0 [0xfe, 0xed, 0xfa, 0xcf] b ||
    (hasAt 0 [0xca, 0xfe, 0xba, 0xbe] b && 8 ≤ b.length && number32At 4 b < 45)

/-- Dalvik code. -/
def isDex (b : Bytes) : Bool :=
  hasAt 0 [0x64, 0x65, 0x78, 0x0a] b && 36 < b.length && octetAt 36 b == 0x70

/-- Optimised Dalvik code, with Dalvik code inside. -/
def isDey (b : Bytes) : Bool :=
  hasAt 0 [0x64, 0x65, 0x79, 0x0a] b && 100 < b.length && isDex ((b.drop 40).take 60)

/-- The formats that are programs, object code or certificates. -/
def programs : List Signature := [
  ⟨none, hasAt 0 [0x00, 0x61, 0x73, 0x6d, 0x01, 0x00, 0x00, 0x00]⟩,
  ⟨none, fun b => hasAt 0 [0x7f, 0x45, 0x4c, 0x46] b && 52 < b.length⟩,
  ⟨none, hasAt 0 [0x4d, 0x5a]⟩,
  ⟨none, isJavaClass⟩,
  ⟨none, hasAt 0 [0x42, 0x43]⟩,
  ⟨none, isMachO⟩,
  ⟨none, isDex⟩,
  ⟨none, isDey⟩,
  ⟨none, fun b => hasAt 0 [0x30, 0x82] b && 2 < b.length⟩,
  ⟨none, fun b => (hasAt 0 [0x64, 0x86] b || hasAt 0 [0x4c, 0x01] b || hasAt 0 [0x00, 0x02] b) &&
    2 < b.length⟩,
  ⟨none, fun b => hasTextAt 0 "-----BEGIN " b && 11 < b.length⟩]

/-! ### Books -/

/-- The mark of a zip archive. -/
def isZip (b : Bytes) : Bool := hasAt 0 [0x50, 0x4b, 0x03, 0x04] b

/-- The formats that are books. -/
def books : List Signature := [
  ⟨none, fun b => isZip b && hasTextAt 30 "mimetypeapplication/epub+zip" b⟩,
  ⟨none, hasTextAt 60 "BOOKMOBI"⟩]

/-! ### Pictures -/

/-- The mark of a TIFF file in either order of octets. -/
def isTiffLike (b : Bytes) : Bool :=
  hasAt 0 [0x49, 0x49, 0x2a, 0x00] b || hasAt 0 [0x4d, 0x4d, 0x00, 0x2a] b

/-- A raw photograph in a TIFF file. -/
def isCr2 (b : Bytes) : Bool := isTiffLike b && hasAt 8 [0x43, 0x52, 0x02] b

/-- A TIFF picture. -/
def isTiff (b : Bytes) : Bool :=
  isTiffLike b && 9 < b.length && octetAt 8 b != 0x43 && octetAt 9 b != 0x52 && !isCr2 b

/-- The pieces of four octets that a payload consists of, an incomplete one left out. -/
def chunks4 : Bytes → List Bytes
  | a :: b :: c :: d :: rest => [a, b, c, d] :: chunks4 rest
  | _ => []

/-- The brands of a file type box: the major brand and the compatible ones. -/
def brands? (b : Bytes) : Option (Bytes × List Bytes) :=
  let size := number32At 0 b
  if 16 ≤ b.length && hasTextAt 4 "ftyp" b && size ≤ b.length then
    some ((b.drop 8).take 4, (chunks4 (b.drop 16)).take (size / 4 - 4))
  else none

/-- A HEIF picture. -/
def isHeif (b : Bytes) : Bool :=
  match brands? b with
  | some (major, compatible) =>
    major == Utf8.encode "heic" ||
      ((major == Utf8.encode "mif1" || major == Utf8.encode "msf1") &&
        compatible.contains (Utf8.encode "heic"))
  | none => false

/-- An AVIF picture. -/
def isAvif (b : Bytes) : Bool :=
  match brands? b with
  | some (major, compatible) =>
    (major :: compatible).any fun brand =>
      brand == Utf8.encode "avif" || brand == Utf8.encode "avis"
  | none => false

/-- A JPEG XL picture, bare or in a container. -/
def isJxl (b : Bytes) : Bool :=
  (hasAt 0 [0xff, 0x0a] b && 2 < b.length) ||
    (hasAt 0 [0x00, 0x00, 0x00, 0x0c, 0x4a, 0x58, 0x4c, 0x20, 0x0d, 0x0a, 0x87, 0x0a] b &&
      12 < b.length)

/-- The formats that are pictures. -/
def pictures : List Signature := [
  ⟨some "image/jpeg", hasAt 0 [0xff, 0xd8, 0xff]⟩,
  ⟨some "image/jp2", hasAt 0
    [0x00, 0x00, 0x00, 0x0c, 0x6a, 0x50, 0x20, 0x20, 0x0d, 0x0a, 0x87, 0x0a, 0x00]⟩,
  ⟨some "image/png", hasAt 0 [0x89, 0x50, 0x4e, 0x47]⟩,
  ⟨some "image/gif", hasTextAt 0 "GIF"⟩,
  ⟨some "image/webp", hasTextAt 8 "WEBP"⟩,
  ⟨some "image/x-canon-cr2", isCr2⟩,
  ⟨some "image/tiff", isTiff⟩,
  ⟨some "image/bmp", hasTextAt 0 "BM"⟩,
  ⟨some "image/vnd.ms-photo", hasAt 0 [0x49, 0x49, 0xbc]⟩,
  ⟨some "image/vnd.adobe.photoshop", hasTextAt 0 "8BPS"⟩,
  ⟨some "image/vnd.microsoft.icon", hasAt 0 [0x00, 0x00, 0x01, 0x00]⟩,
  ⟨some "image/heif", isHeif⟩,
  ⟨some "image/avif", isAvif⟩,
  ⟨some "image/jxl", isJxl⟩,
  ⟨some "image/openraster", fun b =>
    isZip b && hasTextAt 30 "mimetypeimage/openraster" b && 57 < b.length⟩,
  ⟨some "image/vnd.djvu", fun b => hasTextAt 0 "AT&TFORM" b && hasTextAt 12 "DJV" b⟩]

/-! ### Films -/

/-- The major brands of MP4 files. -/
def mp4Brands : List String := [
  "avc1", "dash", "iso2", "iso3", "iso4", "iso5", "iso6", "isom", "mmp4", "mp41", "mp42", "mp4v",
  "mp71", "MSNV", "NDAS", "NDSC", "NSDC", "NDSH", "NDSM", "NDSP", "NDSS", "NDXC", "NDXH", "NDXM",
  "NDXP", "NDXS", "F4V ", "F4P "]

/-- An MP4 film. -/
def isMp4 (b : Bytes) : Bool :=
  11 < b.length && hasTextAt 4 "ftyp" b && mp4Brands.any fun brand => hasTextAt 8 brand b

/-- A Matroska film. -/
def isMatroska (b : Bytes) : Bool :=
  (hasAt 0 [0x1a, 0x45, 0xdf, 0xa3, 0x93, 0x42, 0x82, 0x88] b && hasTextAt 8 "matroska" b) ||
    hasTextAt 31 "matroska" b

/-- A QuickTime film. -/
def isQuickTime (b : Bytes) : Bool :=
  15 < b.length && (hasTextAt 4 "ftypqt  " b || hasTextAt 4 "moov" b || hasTextAt 4 "mdat" b ||
    hasTextAt 12 "mdat" b)

/-- The start of an MPEG stream. -/
def isMpeg (b : Bytes) : Bool :=
  3 < b.length && hasAt 0 [0x00, 0x00, 0x01] b && 0xb0 ≤ octetAt 3 b && octetAt 3 b ≤ 0xbf

/-- The formats that are films. -/
def films : List Signature := [
  ⟨some "video/mp4", isMp4⟩,
  ⟨some "video/x-m4v", hasTextAt 4 "ftypM4V"⟩,
  ⟨some "video/x-matroska", isMatroska⟩,
  ⟨some "video/webm", hasAt 0 [0x1a, 0x45, 0xdf, 0xa3]⟩,
  ⟨some "video/quicktime", isQuickTime⟩,
  ⟨some "video/x-msvideo", fun b => hasTextAt 0 "RIFF" b && hasTextAt 8 "AVI" b⟩,
  ⟨some "video/x-ms-wmv", hasAt 0 [0x30, 0x26, 0xb2, 0x75, 0x8e, 0x66, 0xcf, 0x11, 0xa6, 0xd9]⟩,
  ⟨some "video/mpeg", isMpeg⟩,
  ⟨some "video/x-flv", fun b => hasTextAt 0 "FLV" b && hasAt 3 [0x01] b⟩]

/-! ### Detection -/

/-- Every format, in the order they are tried. -/
def all : List Signature := programs ++ books ++ pictures ++ films

end Signature

/-- The MIME type of a payload, if it is a picture or a film. -/
def mediaType? (payload : Bytes) : Option String :=
  (Signature.all.find? (·.fits payload)).bind (·.mime?)

end GrammarBots
