import Straightedge.Jitter.Basic

namespace Straightedge

structure Twister where
  words : Array UInt32
  used : Nat

namespace Twister

def size : Nat := 624

def lag : Nat := 397

def word (words : Array UInt32) (i : Nat) : UInt32 := words.getD i 0

def folded (y : UInt32) : UInt32 := y ^^^ (y >>> 30)

def spreadOn (words : Array UInt32) (i : Nat) : Array UInt32 :=
  words.push (1812433253 * folded (word words i) + UInt32.ofNat (i + 1))

def spread (seed : UInt32) : Array UInt32 := (List.range (size - 1)).foldl spreadOn #[seed]

-- The place after `i`. The first place repeats the last one and is passed over.
def step (i : Nat) (words : Array UInt32) : Nat × Array UInt32 :=
  if i + 1 < size then (i + 1, words) else (1, words.setIfInBounds 0 (word words (size - 1)))

def mixed (words : Array UInt32) (i : Nat) (factor : UInt32) : UInt32 :=
  word words i ^^^ (folded (word words (i - 1)) * factor)

def mixKey (keys : List UInt32) : Nat → Nat × Array UInt32 → Nat × Array UInt32
  | 0, state => state
  | left + 1, (i, words) =>
      let turn := (max size keys.length - (left + 1)) % keys.length
      let key := keys.getD turn 0 + UInt32.ofNat turn
      mixKey keys left (step i (words.setIfInBounds i (mixed words i 1664525 + key)))

def mixPlace : Nat → Nat × Array UInt32 → Nat × Array UInt32
  | 0, state => state
  | left + 1, (i, words) =>
      mixPlace left
        (step i (words.setIfInBounds i (mixed words i 1566083941 - UInt32.ofNat i)))

-- Zero has one digit.
def keys (n : Nat) : List UInt32 :=
  if n < 0x100000000 then [UInt32.ofNat n]
  else UInt32.ofNat (n % 0x100000000) :: keys (n / 0x100000000)
termination_by n
decreasing_by omega

-- The sign of the seed is ignored.
def ofSeed (seed : Int) : Twister :=
  let keys := keys seed.natAbs
  let mixed := mixKey keys (max size keys.length) (1, spread 19650218)
  let words := (mixPlace (size - 1) mixed).2
  ⟨words.setIfInBounds 0 0x80000000, size⟩

def twisted (words : Array UInt32) (i : Nat) : UInt32 :=
  let joined := (word words i &&& 0x80000000) ||| (word words ((i + 1) % size) &&& 0x7FFFFFFF)
  let carried : UInt32 := if joined &&& 1 = 1 then 0x9908B0DF else 0
  word words ((i + lag) % size) ^^^ (joined >>> 1) ^^^ carried

-- Each word comes from three words of the row as far as it is renewed.
def renew (words : Array UInt32) : Array UInt32 :=
  (List.range size).foldl (fun words i => words.setIfInBounds i (twisted words i)) words

def temper (y : UInt32) : UInt32 :=
  let y := y ^^^ (y >>> 11)
  let y := y ^^^ ((y <<< 7) &&& 0x9D2C5680)
  let y := y ^^^ ((y <<< 15) &&& 0xEFC60000)
  y ^^^ (y >>> 18)

def next (twister : Twister) : UInt32 × Twister :=
  let ready := if twister.used < size then twister else ⟨renew twister.words, 0⟩
  (temper (word ready.words ready.used), { ready with used := ready.used + 1 })

-- Outputs that give no number below `width` are passed over. When all the tries are used up the
-- number is zero, where a search without a bound would go on.
def below (width : Nat) : Nat → Twister → Nat × Twister
  | 0, twister => (0, twister)
  | tries + 1, twister =>
      let (output, later) := twister.next
      let number := output.toNat >>> (32 - (width.log2 + 1))
      if number < width then (number, later) else below width tries later

def draw (bounds : Bounds) : Nat → Twister → Int
  | turn, twister =>
      let width := (bounds.high - bounds.low + 1).toNat
      let (number, later) := below width 4096 twister
      match turn with
      | 0 => bounds.low + number
      | earlier + 1 => draw bounds earlier later

end Twister

def Jitter.seeded (seed : Int) : Jitter :=
  let twister := Twister.ofSeed seed
  { draw := fun turn bounds => twister.draw bounds turn }

end Straightedge
