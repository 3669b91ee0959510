import BearerCache.Lease.Basic

/-! # Lease documents

A lease as it is kept in JSON.  The instants are stamps, which may have an offset; leases of
this library are written in universal time.

A lease that is read keeps the offset of its expiry.  It is fresh as others are, but the calendar
that a margin must not lead out of is the one of the local dates. -/

namespace BearerCache

/-- A lease whose instants are written as stamps. -/
structure LeaseDocument where
  token : Secret
  issuedAt : Stamp
  expiresAt : Stamp
  deriving DecidableEq

/-- The document of a lease. -/
def Lease.document (lease : Lease) : LeaseDocument :=
  ⟨lease.token, .ofInstant lease.issuedAt, .ofInstant lease.expiresAt⟩

namespace LeaseDocument

/-- Whether the lease of a document is good for longer than the margin at an instant; nothing if the
margin leads from the local date and time of its expiry out of the calendar. -/
def isFreshAt? (document : LeaseDocument) (now : Instant) (margin : Span) : Option Bool :=
  let expiry := document.expiresAt
  (Instant.ofNanoseconds? (expiry.localNanoseconds - margin.nanoseconds)).map fun limit =>
    decide (now.nanoseconds < limit.nanoseconds - expiry.aheadSeconds * nanosPerSecond)

/-- A document in JSON. -/
def toJson (document : LeaseDocument) : Json.Value :=
  .object
    [("token", document.token.toJson), ("issued_at", document.issuedAt.toJson),
      ("expires_at", document.expiresAt.toJson)]

/-- The members of a document that have been read. -/
structure Parts where
  token : Option Secret
  issuedAt : Option Stamp
  expiresAt : Option Stamp

/-- Reads a document. -/
def reader : Json.Reader LeaseDocument :=
  .record "struct CachedCredential"
    [.of "token" Parts.token (fun a p => { p with token := a }) Secret.reader,
      .of "issued_at" Parts.issuedAt (fun a p => { p with issuedAt := a }) Stamp.reader,
      .of "expires_at" Parts.expiresAt (fun a p => { p with expiresAt := a }) Stamp.reader]
    ⟨none, none, none⟩
    fun p => do
      let token ← Json.required "token" p.token
      let issuedAt ← Json.required "issued_at" p.issuedAt
      let expiresAt ← Json.required "expires_at" p.expiresAt
      return ⟨token, issuedAt, expiresAt⟩

end LeaseDocument

end BearerCache
