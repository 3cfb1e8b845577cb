import TableMachine.Machine.Basic

/-!
# Builders

A builder gathers the parts of a machine one by one, in any order, and checks them when it builds.
-/

namespace TableMachine

variable {κ : Type}

structure Builder (κ : Type) where
  draft : Draft κ := {}
  actions : Registry κ := []
  logger : Logger := .silent
  historyLimit : Option Nat := some defaultHistoryLimit

namespace Builder

def ofDraft (draft : Draft κ) : Builder κ :=
  { draft }

def startAt (state : String) (b : Builder κ) : Builder κ :=
  { b with draft := b.draft.startAt state }

def declare (state : String) (declarations : List (Declaration κ)) (b : Builder κ) : Builder κ :=
  { b with draft := b.draft.declare state declarations }

def register (name : String) (callback : κ) (b : Builder κ) : Builder κ :=
  { b with actions := b.actions.put name callback }

/-- Replaces everything registered so far. -/
def useActions (actions : Registry κ) (b : Builder κ) : Builder κ :=
  { b with actions }

def useLogger (logger : Logger) (b : Builder κ) : Builder κ :=
  { b with logger }

def limitHistory (limit : Option Nat) (b : Builder κ) : Builder κ :=
  { b with historyLimit := limit }

def faults (b : Builder κ) : List Fault :=
  b.draft.faults b.actions

def build (b : Builder κ) : Except Fault (Machine κ) := do
  return (Machine.ofTable (← b.draft.compile b.actions) b.actions b.logger).limitHistory
    b.historyLimit

end Builder

end TableMachine
