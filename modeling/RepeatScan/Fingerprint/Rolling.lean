import RepeatScan.Text.Utf8
import RepeatScan.TokenStream
import RepeatScan.Window

set_option autoImplicit false

/-! Fingerprints of windows. The hashes of the tokens of a window are the coefficients of a
polynomial, whose value modulo two to the power of 128 is mixed at the end. From one window to the
next the value is brought up to date by the token that leaves and the token that enters. -/

namespace RepeatScan.Fingerprint

abbrev Word := BitVec 128

/-- The byte that ends every token before it is hashed. -/
def tokenEnd : UInt8 := 0x1F

/-- The hash of a token: the digest of its bytes and the byte that ends it. -/
def tokenHash (token : Token) : Word :=
  Blake3.digest128 ((Utf8.encode token).toList ++ [tokenEnd])

/-- The point at which the polynomial is evaluated. -/
def base : Word := 0x9e3779b97f4a7c15f39cc0605cedc835

def firstFactor : Word := 0xff51afd7ed558ccdc4ceb9fe1a85ec53
def secondFactor : Word := 0x87642f3d6d8a5f372c1b3c6d4a7e9f01

/-- Adds the upper bits of a word to its lower ones. -/
def foldDown (amount : Nat) (word : Word) : Word :=
  word ^^^ (word >>> amount)

/-- Spreads every bit of a word over the whole of it. -/
def mix (word : Word) : Word :=
  foldDown 64 (foldDown 61 (foldDown 67 word * firstFactor) * secondFactor)

/-- The value of the polynomial with the given coefficients, the highest first. -/
def polynomial (coefficients : List Word) : Word :=
  coefficients.foldl (fun value coefficient => value * base + coefficient) 0

def ofTokensBy (hash : Token → Word) (tokens : List Token) : Fingerprint :=
  ⟨mix (polynomial (tokens.map hash))⟩

def ofTokens (tokens : List Token) : Fingerprint :=
  ofTokensBy tokenHash tokens

/-- A power by repeated squaring. -/
def power (factor : Word) (exponent : Nat) : Word :=
  if exponent = 0 then 1
  else
    let rest := power (factor * factor) (exponent / 2)
    if exponent % 2 = 1 then factor * rest else rest
termination_by exponent

/-- Hashes one more token, unless it is known already. The known tokens come with their hashes; the
hashes so far stand behind them, the last one first. -/
def remember (hash : Token → Word) (seen : List (Token × Word) × List Word) (token : Token) :
    List (Token × Word) × List Word :=
  match seen.1.lookup token with
  | some known => (seen.1, known :: seen.2)
  | none =>
      let fresh := hash token
      ((token, fresh) :: seen.1, fresh :: seen.2)

/-- The hashes of tokens, each distinct token hashed once. -/
def hashes (hash : Token → Word) (tokens : List Token) : List Word :=
  (tokens.foldl (remember hash) ([], [])).2.reverse

/-- The values of the polynomial from one window on, behind the earlier ones (last one first). Each
step names the coefficient that leaves and the one that enters. -/
def slide (top value : Word) (earlier : List Word) : List (Word × Word) → List Word
  | [] => (value :: earlier).reverse
  | (leaving, entering) :: steps =>
      slide top ((value - leaving * top) * base + entering) (value :: earlier) steps

def windowsBy (hash : Token → Word) (size : Nat) (tokens : List Token) : List WindowPrint :=
  if Window.count tokens.length size = 0 then []
  else
    let coefficients := hashes hash tokens
    let values := slide (power base (size - 1)) (polynomial (coefficients.take size)) []
      (coefficients.zip (coefficients.drop size))
    values.zipIdx.map fun entry => ⟨entry.2, ⟨mix entry.1⟩⟩

/-- The fingerprints of all windows of a size, from the first start to the last. -/
def windows (size : Nat) (tokens : List Token) : List WindowPrint :=
  windowsBy tokenHash size tokens

end RepeatScan.Fingerprint
