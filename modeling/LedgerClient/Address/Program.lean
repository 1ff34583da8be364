import LedgerClient.Key.Value

/-! # Well-known addresses

Programs, the account that publishes the rent, and the mint of the native coin.
-/

namespace LedgerClient

/-- The address of a Base58 text, given as the number that its 32 bytes spell,
most significant byte first. -/
def PublicKey.ofNumber (number : Nat) : PublicKey :=
  ⟨⟨(LittleEndian.encode 32 number).reverse, by simp⟩⟩

namespace Address

/-- The system program, `11111111111111111111111111111111`. -/
def systemProgram : PublicKey := .zero

/-- The token program, `TokenkegQfeZyiNwAJbNbGKPFXCWuBvf9Ss623VQ5DA`. -/
def tokenProgram : PublicKey :=
  .ofNumber 0x06ddf6e1d765a193d9cbe146ceeb79ac1cb485ed5f5b37913a8cf5857eff00a9

/-- The program of associated token accounts,
`ATokenGPvbdGVxr1b2hvZbsiqW5xWH25efTNsLJA8knL`. -/
def associatedTokenProgram : PublicKey :=
  .ofNumber 0x8c97258f4e2489f1bb3d1029148e0d830b5a1399daff1084048e7bd8dbe9f859

/-- The rent account, `SysvarRent111111111111111111111111111111111`. -/
def rent : PublicKey :=
  .ofNumber 0x06a7d517192c5c51218cc94c3d4af17f58daee089ba1fd44e3dbd98a00000000

/-- The mint of the native coin, `So11111111111111111111111111111111111111112`. -/
def nativeMint : PublicKey :=
  .ofNumber 0x069b8857feab8184fb687f634618c035dac439dc1aeb3b5598a0f00000000001

end Address

end LedgerClient
