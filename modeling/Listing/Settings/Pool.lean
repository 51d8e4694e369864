import Listing.Settings.Certificate
import Listing.Settings.Connection

/-!
# Preparing connections

Before a connection is made the certificates to trust are read, if any are needed. Nothing is sent
to the store.
-/

namespace Listing.Settings

/-- Why connections cannot be prepared. -/
inductive PoolFault where
  /-- The file with the certificates cannot be read. -/
  | unreadable (path : String)
  /-- The file with the certificates is no text. -/
  | notText
  /-- The file has no certificates. -/
  | noCertificates
  /-- A certificate of the file is none. -/
  | badCertificate
deriving DecidableEq, Repr

/-- The text of a fault. -/
def PoolFault.message : PoolFault → String
  | unreadable path => "Failed to read CA certificate file: " ++ path
  | notText => "CA certificate file is not valid UTF-8"
  | noCertificates => "No valid certificates found in PEM data"
  | badCertificate => "Failed to parse certificate"

/-- The file with the certificates that a connection needs, if it needs any. -/
def Connection.trusted? (c : Connection) : Option String :=
  if c.protection = .disable then none
  else if c.acceptInvalidCerts && !c.protection.verifies then none
  else c.caCertPath

/-- The certificates in the contents of a file, each as a document, or why there are none. -/
def certificatesOf (contents : List UInt8) : Except PoolFault (List String) :=
  match String.fromUTF8? ⟨contents.toArray⟩ with
  | none => .error .notText
  | some text =>
    match Certificate.split text with
    | [] => .error .noCertificates
    | pieces => .ok (pieces.map Certificate.document)

/-- Checks the certificates of a file. -/
def checkCertificates (path : String) (contents : Option (List UInt8)) : Except PoolFault Unit :=
  match contents with
  | none => .error (.unreadable path)
  | some contents =>
    match certificatesOf contents with
    | .error fault => .error fault
    | .ok documents =>
      if documents.all Certificate.isValid then .ok () else .error .badCertificate

/-- The number of connections that are kept, or why there can be none, where `contentsOf` gives the
contents of files that can be read. -/
def Connection.prepare (c : Connection) (contentsOf : String → Option (List UInt8)) :
    Except PoolFault Nat :=
  match c.trusted? with
  | none => .ok (max c.poolSize 1)
  | some path => (checkCertificates path (contentsOf path)).map fun _ => max c.poolSize 1

end Listing.Settings
