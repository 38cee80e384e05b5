import CodeReview.Digest
import CodeReview.Proofs.Html.Laying
import CodeReview.Proofs.Places.Precedence
import CodeReview.Proofs.Report.Markers
import CodeReview.Proofs.ReviewPage.Mirror
import CodeReview.Proofs.ReviewPage.Pages
import CodeReview.Proofs.ReviewPage.Reading
import Mathlib.Data.List.Induction
import Std.Data.String.ToNat

/-!
# CodeReview.Proofs.Digest.Agreement

The two forms of a review say the same. A review is a list of items; as a payload it has a
thread, a file and a marker reference for each item, which are matched by id; as a page it has
a file element for each item, in which the place is told by what is around the thread. Each
form gives for every item the same fate, up to the marker that only a payload has, so the
accounts are equal, and the reports differ in nothing but markers.
-/

namespace CodeReview

open ReviewPage (Item)

/-! ### Items in structured form -/

namespace ReviewPage.Item

/-- The marker of the line of an item. -/
def marker (item : Item) : String := "R" ++ Text.lineText item.line

/-- The thread of the item with a number. The number is its key and its id. -/
def thread (number : Nat) (item : Item) : Thread where
  key := Nat.repr number
  ownId := some (Nat.repr number)
  resolved := item.resolved
  messages := [⟨some item.author, some item.body, none, none⟩]

/-- The reference to the thread of the item with a number. -/
def reference (number : Nat) : MarkerReference := ⟨Nat.repr number, none, none, none⟩

/-- The marker of the item with a number, with the line as its context. -/
def markerEntry (number : Nat) (item : Item) : MarkerEntry where
  marker := item.marker
  context := some ⟨item.line, item.line⟩
  references := [reference number]

/-- The file of the item with a number. -/
def fileDiff (number : Nat) (item : Item) : FileDiff where
  path := item.path
  markers := [item.markerEntry number]
  lines := []

/-- The place of an item. -/
def place (item : Item) : Place where
  path := item.path
  marker := some item.marker
  line := some item.line
  context := ⟨item.line, item.line⟩

end ReviewPage.Item

/-- The payload of a list of items, numbered from zero. -/
def Payload.ofItems (items : List Item) : Payload :=
  ⟨items.mapIdx Item.thread, items.mapIdx Item.fileDiff⟩

/-! ### Places by number -/

theorem markerPlaces_fileDiff (number : Nat) (item : Item) :
    (item.fileDiff number).markerPlaces = [(Nat.repr number, item.place)] := by
  have hline : Marker.line? (item.markerEntry number).marker = some item.line :=
    Marker.line?_new item.line
  have hspan : (Item.reference number).span? (item.markerEntry number) =
      some (some item.line, ⟨item.line, item.line⟩) := by
    rw [MarkerReference.span?, hline]
    rfl
  have hplace : (Item.reference number).place? item.path (item.markerEntry number) =
      some item.place := by
    rw [MarkerReference.place?, hspan]
    rfl
  have hreferences : (item.fileDiff number).markerReferences =
      [(item.markerEntry number, Item.reference number)] := rfl
  rw [FileDiff.markerPlaces, hreferences]
  simp only [List.filterMap_cons, List.filterMap_nil]
  rw [show (item.fileDiff number).path = item.path from rfl, hplace]
  rfl

/-- In a list with numbered keys, a key leads to the element with the number. -/
theorem lookup_mapIdx {α β : Type} {key : Nat → String} (hkey : Function.Injective key)
    (value : α → β) (list : List α) (number : Nat) :
    (list.mapIdx fun i a => (key i, value a)).lookup (key number) = list[number]?.map value := by
  induction list generalizing key number with
  | nil => rfl
  | cons a list ih =>
    rw [List.mapIdx_cons]
    cases number with
    | zero => simp
    | succ number =>
      have hother : (key (number + 1) == key 0) = false := by
        rw [beq_eq_false_iff_ne]
        exact fun h => Nat.succ_ne_zero number (hkey h)
      have hrest : Function.Injective fun i => key (i + 1) :=
        fun i j h => Nat.succ.inj (hkey h)
      rw [List.lookup_cons, hother, List.getElem?_cons_succ]
      exact ih hrest number

/-- Each item is placed where it says, whatever the paths and lines of the others. -/
theorem getElem?_placesOf_mapIdx (items : List Item) (number : Nat) :
    (placesOf (items.mapIdx Item.fileDiff))[Nat.repr number]? = items[number]?.map Item.place := by
  have hmarkers : (items.mapIdx Item.fileDiff).flatMap FileDiff.markerPlaces =
      items.mapIdx fun number item => (Nat.repr number, item.place) := by
    rw [List.mapIdx_eq_zipIdx_map, List.mapIdx_eq_zipIdx_map, List.flatMap_map, List.map_eq_flatMap]
    have hfile : (fun entry : Item × Nat => (entry.1.fileDiff entry.2).markerPlaces) =
        fun entry => [(Nat.repr entry.2, entry.1.place)] :=
      funext fun entry => markerPlaces_fileDiff entry.2 entry.1
    rw [hfile]
  have hlines : (items.mapIdx Item.fileDiff).flatMap FileDiff.linePlaces = [] := by
    rw [List.flatMap_eq_nil_iff]
    intro file hfile
    obtain ⟨number, hnumber, rfl⟩ := List.mem_mapIdx.mp hfile
    rfl
  rw [getElem?_placesOf, hmarkers, hlines, lookup_mapIdx (fun _ _ => Nat.repr_injective) Item.place,
    List.lookup_nil, Option.or_none]

/-! ### What becomes of the threads -/

theorem fate_thread {places : PlaceTable} {number : Nat} {item : Item}
    (hplace : places[Nat.repr number]? = some item.place) :
    (item.thread number).fate places = item.fate (some item.marker) := by
  have hid : places[(item.thread number).id]? = some item.place := hplace
  unfold Thread.fate Item.fate
  rw [hid]
  rfl

/-- **What is collected from the payload of items is what becomes of the items, in order.** -/
theorem collect_ofItems (items : List Item) :
    (Payload.ofItems items).collect =
      .ofFates (items.map fun item => item.fate (some item.marker)) := by
  unfold Payload.collect collectThreads Payload.ofItems
  congr 1
  refine List.ext_getElem? fun number => ?_
  rw [List.getElem?_map, List.getElem?_mapIdx, List.getElem?_map, Option.map_map]
  cases hitem : items[number]? with
  | none => rfl
  | some item =>
    have hplace : (placesOf (items.mapIdx Item.fileDiff))[Nat.repr number]? = some item.place := by
      rw [getElem?_placesOf_mapIdx, hitem]
      rfl
    exact congrArg some (fate_thread hplace)

theorem collect_of_holds {arena : Html.Arena} {nodes : List Html.Node} {items : List Item}
    (hpage : arena.Holds nodes) (hitems : ReviewPage.ShowsItems items nodes) :
    ReviewPage.collect arena.page = .ofFates (items.map (Item.fate none)) := by
  rw [ReviewPage.collect_of_mirrors hpage.mirrors, ReviewPage.collect_of_showsItems hitems]

/-! ### What is collected from items -/

/-- The account of items: all were seen, some were resolved, and each of the others made one
comment. -/
def Tally.ofItems (items : List Item) : Tally where
  seen := items.length
  resolved := items.countP (·.resolved)
  emitted := items.countP (!·.resolved)

theorem tally_ofFates_items (marker : Item → Option String) (items : List Item) :
    (Collected.ofFates (items.map fun item => item.fate (marker item))).tally =
      Tally.ofItems items := by
  induction items using List.reverseRecOn with
  | nil => rfl
  | append_singleton items item ih =>
    rw [List.map_append, List.map_singleton, Collected.ofFates_append_singleton]
    show (Collected.ofFates _).tally.enter (item.fate (marker item)) = _
    rw [ih]
    unfold Item.fate Tally.ofItems
    cases hresolved : item.resolved <;> simp [Tally.enter, List.countP_append, hresolved]

theorem comments_ofFates_items (marker : Item → Option String) (items : List Item) :
    (Collected.ofFates (items.map fun item => item.fate (marker item))).comments =
      .ofList ((items.filter (!·.resolved)).map fun item => item.comment (marker item)) := by
  rw [Collected.comments_ofFates, List.flatMap_map]
  congr 1
  induction items with
  | nil => rfl
  | cons item items ih =>
    rw [List.flatMap_cons, ih]
    unfold Item.fate
    cases hresolved : item.resolved <;> simp [Fate.comments, hresolved]

/-! ### Agreement -/

theorem report_ofPayload_ofItems (items : List Item) :
    (Digest.ofPayload (.ofItems items)).report =
      .ofCollection (.ofList ((items.filter (!·.resolved)).map fun item =>
        item.comment (some item.marker))) := by
  show Report.ofCollection (Payload.ofItems items).collect.comments = _
  rw [collect_ofItems, comments_ofFates_items fun item => some item.marker]

theorem report_markup_of_holds {arena : Html.Arena} {nodes : List Html.Node} {items : List Item}
    (hpage : arena.Holds nodes) (hitems : ReviewPage.ShowsItems items nodes) :
    (Digest.ofSource (.markup arena.page)).report =
      .ofCollection (.ofList ((items.filter (!·.resolved)).map (Item.comment none))) := by
  show Report.ofCollection (ReviewPage.collect arena.page).comments = _
  rw [collect_of_holds hpage hitems]
  exact congrArg _ (comments_ofFates_items (fun _ => none) items)

/-- **The two forms of a review agree.** Take a page on which trees are stored that show a list
of items, and the payload of the same items. Both accounts are that of the items. The report on
the page has the comments of the items that are not resolved; that on the payload is the same
but for the markers, and it has the same text. -/
theorem digests_agree {items : List Item} {nodes : List Html.Node} {arena : Html.Arena}
    (hpage : arena.Holds nodes) (hitems : ReviewPage.ShowsItems items nodes) :
    (Digest.ofPayload (.ofItems items)).tally = Tally.ofItems items ∧
      (Digest.ofSource (.markup arena.page)).tally = Tally.ofItems items ∧
      (Digest.ofPayload (.ofItems items)).report =
        .ofCollection (.ofList ((items.filter (!·.resolved)).map fun item =>
          item.comment (some item.marker))) ∧
      (Digest.ofSource (.markup arena.page)).report =
        (Digest.ofPayload (.ofItems items)).report.withoutMarkers ∧
      ∀ settings, (Digest.ofSource (.markup arena.page)).render settings =
        (Digest.ofPayload (.ofItems items)).render settings := by
  have hreport : (Digest.ofSource (.markup arena.page)).report =
      (Digest.ofPayload (.ofItems items)).report.withoutMarkers := by
    rw [report_ofPayload_ofItems, report_markup_of_holds hpage hitems,
      ← Report.ofCollection_map_withoutMarker, List.map_map]
    rfl
  refine ⟨?_, ?_, report_ofPayload_ofItems items, hreport, fun settings => ?_⟩
  · show (Payload.ofItems items).collect.tally = _
    rw [collect_ofItems, tally_ofFates_items fun item => some item.marker]
  · show (ReviewPage.collect arena.page).tally = _
    rw [collect_of_holds hpage hitems]
    exact tally_ofFates_items (fun _ => none) items
  · rw [Digest.render, Digest.render, hreport, Report.render_withoutMarkers]

/-- Two items on one line of a file, with a resolved one on another file between them. -/
def tiedItems : List Item :=
  [⟨"b.rs", 7, false, "octo", "first", by decide, by decide, by decide, by decide, by decide⟩,
    ⟨"a.rs", 9, true, "octo", "done", by decide, by decide, by decide, by decide, by decide⟩,
    ⟨"b.rs", 7, false, "cat", "second", by decide, by decide, by decide, by decide, by decide⟩]

/-- The page of these items, laid down as it is read, and their payload agree. -/
theorem digests_agree_tiedItems :
    (Html.Arena.ofNodes (ReviewPage.pageNodes tiedItems)).Holds (ReviewPage.pageNodes tiedItems) ∧
      ReviewPage.ShowsItems tiedItems (ReviewPage.pageNodes tiedItems) ∧
      (Digest.ofPayload (.ofItems tiedItems)).tally = { seen := 3, resolved := 1, emitted := 2 } ∧
      (Digest.ofSource
          (.markup (Html.Arena.ofNodes (ReviewPage.pageNodes tiedItems)).page)).report =
        (Digest.ofPayload (.ofItems tiedItems)).report.withoutMarkers := by
  have hpage := Html.Arena.holds_ofNodes (ReviewPage.pageNodes tiedItems)
  have hitems := ReviewPage.showsItems_pageNodes tiedItems
  obtain ⟨htally, -, -, hreport, -⟩ := digests_agree hpage hitems
  exact ⟨hpage, hitems, htally, hreport⟩

end CodeReview
