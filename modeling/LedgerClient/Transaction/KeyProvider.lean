import LedgerClient.Key.Secret

/-! # Where secret keys come from

A provider answers a public key with the secret key for it, if it has one.
-/

namespace LedgerClient

/-- A source of secret keys. -/
abbrev KeyProvider := PublicKey → Option SecretKey

namespace KeyProvider

/-- One secret key, for its own public half. -/
def single (key : SecretKey) : KeyProvider := fun wanted =>
  if key.publicKey = wanted then some key else none

/-- Secret keys, of which the first with the right public half is taken. -/
def ofList (keys : List SecretKey) : KeyProvider := fun wanted =>
  keys.find? fun key => key.publicKey = wanted

/-- Secret keys under public keys of the caller's choice. The last entry for a
public key counts. -/
def ofEntries (entries : List (PublicKey × SecretKey)) : KeyProvider := fun wanted =>
  entries.reverse.lookup wanted

end KeyProvider

end LedgerClient
