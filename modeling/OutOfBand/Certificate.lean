import OutOfBand.Device
import OutOfBand.FileTree
import OutOfBand.Text.Base64

/-! # Certificate bundles

A bundle is a text of sections, each between a line that begins it and one that ends it, with Base64
between. Only sections of certificates count; what stands between sections does not.
-/
namespace OutOfBand

inductive BundleFault where
  | unreadable (path : String) (fault : FileFault)
  | malformed (detail : String)
  | noCertificates (path : String)
  | notCertificate
deriving DecidableEq, Repr

def BundleFault.message : BundleFault → String
  | .unreadable path fault => s!"failed to read CA bundle {path}: {fault.message}"
  | .malformed detail => s!"invalid CA bundle: {detail}"
  | .noCertificates path => s!"no certificates found in {path}"
  | .notCertificate => "failed to build HTTP client: a certificate cannot be read"

namespace Bundle

def beginMark : List Char := "-----BEGIN ".toList

def isTrailing (c : Char) : Bool := c == '\n' || c == '\r' || c == ' '

/-- The label of a line that begins a section. The line has to end in five dashes. -/
def sectionLabel? (line : List Char) : Option (List Char) :=
  let rest := (Text.dropEndWhile isTrailing line).drop beginMark.length
  let label := Text.dropEndWhile (· == '-') rest
  if rest.length = label.length + 5 then some label else none

/-- The kinds of section that have to be Base64. -/
def labels : List String := ["CERTIFICATE", "PUBLIC KEY", "RSA PRIVATE KEY", "PRIVATE KEY", "EC PRIVATE KEY",
  "X509 CRL", "CERTIFICATE REQUEST", "ECHCONFIG"]

/-- The section being read: its label, its end mark and its text so far. -/
structure OpenSection where
  label : List Char
  text : List Char

def OpenSection.endMark (s : OpenSection) : List Char := "-----END ".toList ++ s.label ++ "-----".toList

/-- The contents of the certificate sections, line by line. -/
def certificates (current : Option OpenSection) : List (List Char) → Except String (List (List UInt8))
  | [] => if current.isSome then .error "section end not found" else .ok []
  | line :: rest =>
    if beginMark.isPrefixOf line then
      match sectionLabel? line with
      | some label => certificates (some ⟨label, []⟩) rest
      | none => .error "illegal section start"
    else
      match current with
      | none => certificates none rest
      | some s =>
        if s.endMark.isPrefixOf line then
          if labels.contains (String.ofList s.label) then
            match Text.base64Decode (s.text.filter (!Text.isAsciiBlank ·)) with
            | none => .error "invalid base64"
            | some bytes => do
              let others ← certificates none rest
              .ok (if s.label == "CERTIFICATE".toList then bytes :: others else others)
          else certificates none rest
        else certificates (some ⟨s.label, s.text ++ Text.dropEndWhile isTrailing line⟩) rest

/-- A DER sequence that spans all the bytes. -/
def isCertificate (bytes : List UInt8) : Bool :=
  match bytes.map UInt8.toNat with
  | 0x30 :: 0x81 :: length :: rest => rest.length == length
  | 0x30 :: 0x82 :: high :: low :: rest => rest.length == high * 256 + low
  | 0x30 :: length :: rest => length < 0x80 && 0 < length && rest.length == length
  | _ => false

/-- The authorities named by a bundle file. -/
def load (files : FileTree) (path : String) : Except BundleFault (List (List UInt8)) :=
  match files.read path with
  | .error fault => .error (.unreadable path fault)
  | .ok bytes =>
    match certificates none (Text.splitOn (· == '\n') (Text.decodeUtf8 bytes).toList) with
    | .error detail => .error (.malformed detail)
    | .ok [] => .error (.noCertificates path)
    | .ok found => if found.all isCertificate then .ok found else .error .notCertificate

end Bundle

end OutOfBand
