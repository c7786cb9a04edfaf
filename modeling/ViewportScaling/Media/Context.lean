import ViewportScaling.Document.Walk
import ViewportScaling.Media.Placement

/-!
# Contexts

A context holds the three media blocks of a pass while they grow. Each block is an at-rule of the
document without a parent. Emissions become rules of their block. When all rules are dealt with, the
blocks are merged and taken into a sheet: the desktop block and the landscape block if they hold
anything, and the shared block if both of them do.
-/

namespace ViewportScaling.Media

open Css Document

/-- The media blocks of a pass. -/
structure Context where
  /-- The settings of the pass. -/
  settings : Settings
  /-- The block for desktop viewports. -/
  desktop : Id
  /-- The block for phones held sideways. -/
  landscape : Id
  /-- The block for both. -/
  shared : Id
deriving DecidableEq, Repr

namespace Context

/-- The at-rule of a block. -/
def block (context : Context) : Block → Id
  | .desktop => context.desktop
  | .landscape => context.landscape
  | .shared => context.shared

/-- Puts an at-rule with a media condition and no rules into the store. -/
def openBlock (store : Store) (params : String) : Id × Store :=
  store.newContainer (.atRule "media" params true) []

/-- A context with empty blocks. -/
def create (store : Store) (settings : Settings) : Context × Store :=
  let (desktop, store) := openBlock store settings.desktopParams
  let (landscape, store) := openBlock store settings.landscapeParams
  let (shared, store) := openBlock store settings.sharedParams
  (⟨settings, desktop, landscape, shared⟩, store)

/-- Makes a rule of an emission, and gives its identity. -/
def emit (context : Context) (store : Store) (emission : Emission) : Id × Store :=
  let (rule, store) := store.newRule emission.selector emission.declarations
  (rule, store.append (context.block emission.block) [rule])

/-- Makes rules of emissions, in order. -/
def emitAll (context : Context) (store : Store) (emissions : List Emission) : Store :=
  emissions.foldl (fun store emission => (context.emit store emission).2) store

/-- The blocks that are taken into a sheet, in order. -/
def finished (context : Context) (store : Store) : List Block :=
  let desktop := !(store.children context.desktop).isEmpty
  let landscape := !(store.children context.landscape).isEmpty
  (if desktop then [.desktop] else []) ++ (if landscape then [.landscape] else []) ++
    (if desktop && landscape then [.shared] else [])

/-- Merges one block and takes it into a sheet, with the notice about it. -/
def finishBlock (context : Context) (sheet : Id) (store : Store) (block : Block) :
    Notice × Store :=
  let merged := store.mergeRules (context.block block)
  let appended := merged.append sheet [context.block block]
  (.blockAppended block.name (appended.children (context.block block)).length, appended)

/-- Merges the blocks that hold anything and takes them into a sheet; the at-rules taken in, and the
notices about them. -/
def finish (context : Context) (store : Store) (sheet : Id) : List Id × List Notice × Store :=
  let blocks := context.finished store
  let (notices, store) := blocks.foldl (fun (notices, store) block =>
    let (notice, changed) := context.finishBlock sheet store block
    (notices ++ [notice], changed)) ([], store)
  (blocks.map context.block, notices, store)

end Context

end ViewportScaling.Media
