import Colloquy.Dialogue.Picker
import Colloquy.Dialogue.Submission
import Colloquy.Script.Basic
import Colloquy.Session.Store

/-!
What a conversation works with, and a log of what it does there.
-/

namespace Colloquy

open Session (Keeper Store Write)

/-- A bot: its script, and the composer that it may ask. -/
structure Engine where
  script : Script
  composer : String → Except Composer.Fault String
  /-- What is said to a message without the file that was asked for. -/
  fileRetryText : String := "Please, upload a valid file :)"

inductive Effect where
  /-- A change of the store was tried; it was kept or it failed. -/
  | write (change : Write) (kept : Bool)
  | deliver (submission : Submission)
  | ask (url : String)
deriving DecidableEq

structure World (κ : Type) where
  store : Store κ
  picker : Picker
  /-- What has been done, earliest first. -/
  log : List Effect := []

namespace World

variable {κ : Type}

def note (world : World κ) (effect : Effect) : World κ :=
  { world with log := world.log ++ [effect] }

/-- Changes the store; tells whether the change was kept. -/
def write [Keeper κ] (world : World κ) (change : Write) : Bool × World κ :=
  let (outcome, store) := world.store.write change
  (outcome.toBool, { world with store, log := world.log ++ [.write change outcome.toBool] })

def submissions (world : World κ) : List Submission :=
  world.log.filterMap fun
    | .deliver submission => some submission
    | _ => none

def asked (world : World κ) : List String :=
  world.log.filterMap fun
    | .ask url => some url
    | _ => none

@[simp] theorem store_note (world : World κ) (effect : Effect) :
    (world.note effect).store = world.store := rfl

@[simp] theorem picker_note (world : World κ) (effect : Effect) :
    (world.note effect).picker = world.picker := rfl

@[simp] theorem log_note (world : World κ) (effect : Effect) :
    (world.note effect).log = world.log ++ [effect] := rfl

@[simp] theorem store_write [Keeper κ] (world : World κ) (change : Write) :
    (world.write change).2.store = (world.store.write change).2 := rfl

@[simp] theorem picker_write [Keeper κ] (world : World κ) (change : Write) :
    (world.write change).2.picker = world.picker := rfl

theorem kept_write [Keeper κ] {world : World κ} {change : Write}
    (h : (world.write change).1 = true) : (world.store.write change).1 = .ok () := by
  cases houtcome : (world.store.write change).1 with
  | ok value => rfl
  | error fault => simp [write, houtcome, Except.toBool] at h

end World

end Colloquy
