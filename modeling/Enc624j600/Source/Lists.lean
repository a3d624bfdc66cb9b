/-
# The lists of the kernel

The functions of `list.c` and the macros of `list.h`: circular lists of items, linked in both
directions, each with a marker for its end and an index that goes round.  The memory of all lists
is one value; an item and the end of a list are named, where the source has their addresses.
-/
import Mathlib.Logic.Function.Basic
import Enc624j600.Lib.LinkedRing
import Enc624j600.Source.Main

namespace Enc624j600.Rtos

/-- `portMAX_DELAY`. -/
abbrev portMaxDelay : TickType := 0xffffffff#32

/-- `ListItem_t *`: the item `xListEnd` of a list, or an item. -/
inductive ListItem (L I : Type) where
  | listEnd (list : L)
  | item (item : I)
deriving DecidableEq, Repr

/-- The fields of the lists and of the items. -/
structure ListMem (L I : Type) where
  /-- `pxNext`. -/
  pxNext : ListItem L I → ListItem L I
  /-- `pxPrevious`. -/
  pxPrevious : ListItem L I → ListItem L I
  /-- `xItemValue`. -/
  xItemValue : ListItem L I → TickType
  /-- `pxContainer`; `none` for `NULL`. -/
  pxContainer : I → Option L
  /-- `pxIndex`. -/
  pxIndex : L → ListItem L I
  /-- `uxNumberOfItems`. -/
  uxNumberOfItems : L → ℕ

namespace ListMem

variable {L I : Type} [DecidableEq L] [DecidableEq I]

/-- Write `pxNext`. -/
def setNext (m : ListMem L I) (a b : ListItem L I) : ListMem L I :=
  { m with pxNext := Function.update m.pxNext a b }

/-- Write `pxPrevious`. -/
def setPrevious (m : ListMem L I) (a b : ListItem L I) : ListMem L I :=
  { m with pxPrevious := Function.update m.pxPrevious a b }

/-- Write `pxContainer`. -/
def setContainer (m : ListMem L I) (x : I) (c : Option L) : ListMem L I :=
  { m with pxContainer := Function.update m.pxContainer x c }

/-- Write `pxIndex`. -/
def setIndex (m : ListMem L I) (l : L) (a : ListItem L I) : ListMem L I :=
  { m with pxIndex := Function.update m.pxIndex l a }

/-- Write `uxNumberOfItems`. -/
def setNumberOfItems (m : ListMem L I) (l : L) (n : ℕ) : ListMem L I :=
  { m with uxNumberOfItems := Function.update m.uxNumberOfItems l n }

/-- `listSET_LIST_ITEM_VALUE`, also for the end of a list. -/
def setItemValue (m : ListMem L I) (a : ListItem L I) (v : TickType) : ListMem L I :=
  { m with xItemValue := Function.update m.xItemValue a v }

/-! ## The functions -/

/-- `vListInitialise`. -/
def vListInitialise (m : ListMem L I) (l : L) : ListMem L I :=
  let m := m.setIndex l (.listEnd l)
  let m := m.setItemValue (.listEnd l) portMaxDelay
  let m := m.setNext (.listEnd l) (.listEnd l)
  let m := m.setPrevious (.listEnd l) (.listEnd l)
  m.setNumberOfItems l 0

/-- `vListInitialiseItem`. -/
def vListInitialiseItem (m : ListMem L I) (x : I) : ListMem L I :=
  m.setContainer x none

/-- Also the macro `listINSERT_END`, which has the same statements. -/
def vListInsertEnd (m : ListMem L I) (l : L) (x : I) : ListMem L I :=
  let pxIndex := m.pxIndex l
  let m := m.setNext (.item x) pxIndex
  let m := m.setPrevious (.item x) (m.pxPrevious pxIndex)
  let m := m.setNext (m.pxPrevious pxIndex) (.item x)
  let m := m.setPrevious pxIndex (.item x)
  let m := m.setContainer x (some l)
  m.setNumberOfItems l (m.uxNumberOfItems l + 1)

/-- The place that `vListInsert` inserts at: the last item in front of it.  The loop has a
comparison for each item and one for the end of the list. -/
def insertionPoint (m : ListMem L I) (l : L) (v : TickType) : Option (ListItem L I) :=
  if v = portMaxDelay then
    some (m.pxPrevious (.listEnd l))
  else
    LinkedRing.walk m.pxNext (fun a => decide (m.xItemValue a ≤ v)) (m.uxNumberOfItems l + 1)
      (.listEnd l)

/-- The statements of `vListInsert` behind the loop. -/
def insertBehind (m : ListMem L I) (l : L) (x : I) (pxIterator : ListItem L I) : ListMem L I :=
  let m := m.setNext (.item x) (m.pxNext pxIterator)
  let m := m.setPrevious (m.pxNext (.item x)) (.item x)
  let m := m.setPrevious (.item x) pxIterator
  let m := m.setNext pxIterator (.item x)
  let m := m.setContainer x (some l)
  m.setNumberOfItems l (m.uxNumberOfItems l + 1)

/-- `vListInsert`. -/
def vListInsert (m : ListMem L I) (l : L) (x : I) : Option (ListMem L I) := do
  let xValueOfInsertion := m.xItemValue (.item x)
  let pxIterator ← m.insertionPoint l xValueOfInsertion
  return m.insertBehind l x pxIterator

/-- The statements of `uxListRemove` behind the look at the container. -/
def removeFrom (m : ListMem L I) (pxList : L) (x : I) : ListMem L I :=
  let m := m.setPrevious (m.pxNext (.item x)) (m.pxPrevious (.item x))
  let m := m.setNext (m.pxPrevious (.item x)) (m.pxNext (.item x))
  let m :=
    if m.pxIndex pxList = .item x then m.setIndex pxList (m.pxPrevious (.item x)) else m
  let m := m.setContainer x none
  m.setNumberOfItems pxList (m.uxNumberOfItems pxList - 1)

/-- Also the macro `listREMOVE_ITEM`, which returns nothing.  The item has to be in a list: the
list of another item would be at the address `NULL`. -/
def uxListRemove (m : ListMem L I) (x : I) : Option (ListMem L I × ℕ) := do
  let pxList ← m.pxContainer x
  let m := m.removeFrom pxList x
  return (m, m.uxNumberOfItems pxList)

/-! ## The macros -/

/-- `listLIST_IS_EMPTY`. -/
def listIsEmpty (m : ListMem L I) (l : L) : Bool :=
  m.uxNumberOfItems l == 0

/-- `listGET_HEAD_ENTRY`. -/
def listHeadEntry (m : ListMem L I) (l : L) : ListItem L I :=
  m.pxNext (.listEnd l)

/-- `listGET_ITEM_VALUE_OF_HEAD_ENTRY`. -/
def listItemValueOfHeadEntry (m : ListMem L I) (l : L) : TickType :=
  m.xItemValue (m.listHeadEntry l)

/-- The advance of the index in `listGET_OWNER_OF_NEXT_ENTRY`. -/
def listAdvanceIndex (m : ListMem L I) (l : L) : ListMem L I :=
  let m := m.setIndex l (m.pxNext (m.pxIndex l))
  if m.pxIndex l = .listEnd l then m.setIndex l (m.pxNext (.listEnd l)) else m

end ListMem

/-- The item at an address that is not the end of a list: the field `pvOwner` is only there. -/
def ListItem.item? {L I : Type} : ListItem L I → Option I
  | .listEnd _ => none
  | .item x => some x

end Enc624j600.Rtos
