import RefreshChain.Base64Url
import RefreshChain.Collaborators

/-!
# Token strings

`TokenGenerator.secure` draws random bytes and writes them in base64 for URLs.
-/

namespace RefreshChain

/-- A source of random bytes: as many as asked for. -/
def RandomBytes (σ : Type) : Type := Nat → σ → List UInt8 × σ

/-- Token strings of `n` random bytes each. -/
def TokenGenerator.secure {σ : Type} (random : RandomBytes σ) (n : Nat) : TokenGenerator σ :=
  fun s =>
    let (bytes, s) := random n s
    (String.ofList (Base64Url.encode bytes), s)

end RefreshChain
