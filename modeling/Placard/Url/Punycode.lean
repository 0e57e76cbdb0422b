import Placard.Text.Digit
import Placard.Text.Case

/-!
# Host names in ASCII

A label with other characters than ASCII is written in digits and small letters: first its ASCII
characters, then for each other character, in order of code points, how far the insertion point
moves, as a number with digits of varying weight.
-/

namespace Placard.Url

open Placard.Text

/-- The digit of a value below 36: letters come first. -/
def punyDigit (n : Nat) : Char :=
  if n < 26 then Char.ofNat (97 + n) else Char.ofNat (22 + n)

/-- The value of a digit, in either case. -/
def punyValue? (c : Char) : Option Nat :=
  let n := (asciiLower c).toNat
  if 97 ≤ n && n ≤ 122 then some (n - 97) else if 48 ≤ n && n ≤ 57 then some (n - 22) else none

/-- The least value that a digit has at a place unless it is the last one. -/
def threshold (bias place : Nat) : Nat :=
  if place ≤ bias + 1 then 1 else if bias + 26 ≤ place then 26 else place - bias

theorem threshold_pos (bias place : Nat) : 1 ≤ threshold bias place := by
  unfold threshold
  split
  · omega
  · split <;> omega

/-- A number with digits of varying weight, the least first. -/
def varying (bias place n : Nat) : List Char :=
  let t := threshold bias place
  if n < t then [punyDigit n]
  else punyDigit (t + (n - t) % (36 - t)) :: varying bias (place + 36) ((n - t) / (36 - t))
termination_by n
decreasing_by
  have := threshold_pos bias place
  have := Nat.div_le_self (n - threshold bias place) (36 - threshold bias place)
  omega

/-- The bias for a range of distances. -/
def biasOf (distance : Nat) : Nat :=
  go 0 distance
where
  /-- The bias, given what was scaled off already. -/
  go (scaled n : Nat) : Nat :=
    if h : 455 < n then go (scaled + 36) (n / 35) else scaled + 36 * n / (n + 38)
  termination_by n
  decreasing_by exact Nat.div_lt_self (by omega) (by omega)

/-- The bias after a distance that led to the given number of characters. -/
def nextBias (first : Bool) (distance total : Nat) : Nat :=
  let d := if first then distance / 700 else distance / 2
  biasOf (d + d / total)

/-- How far writing a label has come. -/
structure Writing where
  code : Nat
  distance : Nat
  bias : Nat
  written : Nat
  basic : Nat
  output : List Char

/-- The state after one character of the label has been passed, for the current code point. -/
def Writing.pass (w : Writing) (c : Char) : Writing :=
  if c.toNat < w.code then { w with distance := w.distance + 1 }
  else if c.toNat = w.code then
    { w with
      output := w.output ++ varying w.bias 36 w.distance
      bias := nextBias (w.written = w.basic) w.distance (w.written + 1)
      distance := 0
      written := w.written + 1 }
  else w

/-- The state after the whole label has been passed for one more code point. -/
def Writing.passAll (label : List Char) (w : Writing) (code : Nat) : Writing :=
  let reached := { w with code, distance := w.distance + (code - w.code) * (w.written + 1) }
  let passed := label.foldl Writing.pass reached
  { passed with distance := passed.distance + 1, code := code + 1 }

/-- The code points of a label outside ASCII, in order and without repetition. -/
def foreignCodes (label : List Char) : List Nat :=
  ((label.map Char.toNat).filter (128 ≤ ·)).eraseDups.mergeSort (fun a b => a ≤ b)

/-- A label in ASCII, without the mark in front. -/
def punyEncode (label : List Char) : List Char :=
  let ascii := label.filter (·.toNat < 128)
  let start : Writing :=
    { code := 128, distance := 0, bias := 72, written := ascii.length, basic := ascii.length
      output := ascii ++ (if ascii.isEmpty then [] else ['-']) }
  ((foreignCodes label).foldl (Writing.passAll label) start).output

/-- How far reading a label has come. -/
structure Reading where
  code : Nat
  index : Nat
  before : Nat
  weight : Nat
  place : Nat
  bias : Nat
  output : List Char

/-- The state after one digit. -/
def Reading.step (r : Reading) (c : Char) : Option Reading :=
  match punyValue? c with
  | none => none
  | some d =>
    let index := r.index + d * r.weight
    let t := threshold r.bias r.place
    if d < t then
      let total := r.output.length + 1
      let code := r.code + index / total
      let at_ := index % total
      if code < 0xd800 || (0xdfff < code && code < 0x110000) then
        some
          { code, index := at_ + 1, before := at_ + 1, weight := 1, place := 36
            bias := nextBias (r.before = 0 && r.output.length + 1 = total && r.code = 128)
              (index - r.before) total
            output := r.output.take at_ ++ Char.ofNat code :: r.output.drop at_ }
      else none
    else
      some { r with index, weight := r.weight * (36 - t), place := r.place + 36 }

/-- The label that a text in ASCII stands for, without the mark in front. -/
def punyDecode? (cs : List Char) : Option (List Char) :=
  let tail := (cs.reverse.takeWhile (· != '-')).reverse
  let ascii := (cs.take (cs.length - tail.length)).dropLast
  let start : Reading :=
    { code := 128, index := 0, before := 0, weight := 1, place := 36, bias := 72, output := ascii }
  (tail.foldlM Reading.step start).bind fun r =>
    if r.weight = 1 && r.place = 36 then some r.output else none

end Placard.Url
