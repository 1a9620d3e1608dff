import ControllerHost.Proofs.Slot.Lodging
import ControllerHost.Proofs.Slot.Settling

/-!
# Loads that differ in the names of copies

The random part of a private copy's name shows in the path of the copy, and in what the platform
says about the copy when it cannot be opened or lacks the entry point. Nothing else about a load
depends on it, nor on what else there is, as long as that has nothing to do with the load.

- `LoadResult.Matches`, `Slot.Matches`, `SlotInfo.Matches`: results, slots and descriptions that are
  the same up to the random part of a copy's name.
- `LoadError.Matches.message`, `Slot.Matches.info`: such errors have such messages, and such slots
  are described so.
- `Slot.Twins`, `Slot.settled_twins`: two loads that open the same contents fare alike.
- `Slot.attach_matches`: two loads of one request.
-/

namespace ControllerHost

variable {B S L File State : Type} {platform : Platform B S L}

/-! ### Sameness up to random parts -/

/-- Two errors say the same, up to the random part of a copy's name. -/
inductive LoadError.Matches (conn : ConnectionId) : LoadError → LoadError → Prop
  | same (error : LoadError) : Matches conn error error
  | libraryNotFound (path : Path) {reason reason' : String}
      (hreason : Text.Matches conn reason reason') :
      Matches conn (.libraryNotFound path reason) (.libraryNotFound path reason')
  | symbolNotFound (path : Path) (symbol : String) {reason reason' : String}
      (hreason : Text.Matches conn reason reason') :
      Matches conn (.symbolNotFound path symbol reason) (.symbolNotFound path symbol reason')

/-- Two loads come to the same, up to the random part of a copy's name. -/
inductive LoadResult.Matches (conn : ConnectionId) : LoadResult → LoadResult → Prop
  | same (result : LoadResult) : Matches conn result result
  | failed {error error' : LoadError} (herror : error.Matches conn error') :
      Matches conn (.failed error) (.failed error')

/-- Two slots hold the same, up to the random part of a copy's name and to the handles that the
platform has given out. The libraries have the same contents, and the routines do the same to the
state of their libraries. -/
inductive Slot.Matches (contents : platform.Contents File State) (conn : ConnectionId) :
    Slot S L → Slot S L → Prop
  | empty : Matches contents conn .empty .empty
  | failed (path : Path) (symbol : String) {reason reason' : String}
      (hreason : Text.Matches conn reason reason') :
      Matches contents conn (.failed path symbol reason) (.failed path symbol reason')
  | loaded {library library' : L} {routine routine' : Routine S} {copy copy' : PrivateCopy}
      (path : Path) (symbol : String)
      (himage : contents.image library = contents.image library')
      (hown : contents.own (contents.file library) routine =
        contents.own (contents.file library') routine')
      (hcopy : Bytes.Matches conn copy.path.bytes copy'.path.bytes) :
      Matches contents conn (.loaded ⟨library, routine, some copy, path, symbol⟩)
        (.loaded ⟨library', routine', some copy', path, symbol⟩)

/-- Two descriptions say the same, up to the random part of a copy's name. -/
structure SlotInfo.Matches (conn : ConnectionId) (info other : SlotInfo) : Prop where
  status : info.status = other.status
  path : info.path? = other.path?
  symbol : info.symbol? = other.symbol?
  loadedFrom : Option.Rel (fun path path' => Bytes.Matches conn path.bytes path'.bytes)
    info.loadedFrom? other.loadedFrom?
  failure : Option.Rel (Text.Matches conn) info.failure? other.failure?

variable {conn : ConnectionId}

theorem Text.Renamed.matches {name name' : Bytes} {text text' : String}
    (htext : Text.Renamed name name' text text') (hname : Bytes.Matches conn name name') :
    Text.Matches conn text text' := by
  cases htext with
  | same => exact Text.matches_self conn _
  | named rest => exact hname.lossy.append_right rest

theorem LoadError.Matches.message {error other : LoadError} (herror : error.Matches conn other) :
    Text.Matches conn error.message other.message := by
  cases herror with
  | same => exact Text.matches_self conn _
  | libraryNotFound path hreason =>
    exact hreason.append_left s!"failed to load library {path.shown}: "
  | symbolNotFound path symbol hreason =>
    exact hreason.append_left s!"failed to get function {symbol} from {path.shown}: "

theorem LoadResult.Matches.status {result other : LoadResult}
    (hresult : result.Matches conn other) : result.status = other.status := by
  cases hresult with
  | same => rfl
  | failed herror => cases herror <;> rfl

theorem Slot.Matches.info {contents : platform.Contents File State} {slot other : Slot S L}
    (hslot : slot.Matches contents conn other) : slot.info.Matches conn other.info := by
  cases hslot with
  | empty => exact ⟨rfl, rfl, rfl, .none, .none⟩
  | failed path symbol hreason => exact ⟨rfl, rfl, rfl, .none, .some hreason⟩
  | loaded path symbol himage hown hcopy => exact ⟨rfl, rfl, rfl, .some hcopy, .none⟩

theorem Slot.Matches.status {contents : platform.Contents File State} {slot other : Slot S L}
    (hslot : slot.Matches contents conn other) : slot.status = other.status := by
  cases hslot <;> rfl

/-! ### Contents that stand alone -/

namespace Slot

/-- What a load comes to and leaves in its slot, given what comes of looking for the entry point in
the library that it has opened. -/
def found (request : LoadRequest) (copy? : Option PrivateCopy) (library : L) :
    Except String (Routine S) → LoadResult × Slot S L
  | .ok routine => (.loaded, .loaded ⟨library, routine, copy?, request.path, request.symbol⟩)
  | .error reason =>
    (.failed (.symbolNotFound request.path request.symbol reason),
      .failed request.path request.symbol reason)

/-- What a load over the platform comes to, by what the platform makes of the path that is
opened. -/
theorem settled_platform (request : LoadRequest) (copy? : Option PrivateCopy) (files : FileSystem)
    (books : B) (path : Path) :
    settled platform.loader request copy? (platform.loader.openLibrary files books path) =
      match platform.openPath files books path with
      | (.error reason, _) => (.failed (.libraryNotFound request.path reason), .empty)
      | (.ok library, left, _) =>
        found request copy? library (platform.resolve left library request.symbol) := by
  simp only [Platform.loader]
  generalize platform.openPath files books path = opened
  obtain ⟨result, left, change⟩ := opened
  cases result with
  | error reason => rfl
  | ok library =>
    simp only [settled, Attempt.ofExcept]
    cases platform.resolve left library request.symbol <;> rfl

/-- What two loads of one path and symbol come to and leave in their slots when they fare alike. The
names are those by which the two open their libraries, and what is known of the libraries once they
are open may be different for the two. -/
inductive Twins (contents : platform.Contents File State) (path : Path) (symbol : String)
    (copy? copy?' : Option PrivateCopy) (name name' : Bytes) (opened opened' : L → Prop) :
    LoadResult × Slot S L → LoadResult × Slot S L → Prop
  /-- Neither has opened the library. -/
  | notOpened {reason reason' : String} (hreason : Text.Renamed name name' reason reason') :
      Twins contents path symbol copy? copy?' name name' opened opened'
        (.failed (.libraryNotFound path reason), .empty)
        (.failed (.libraryNotFound path reason'), .empty)
  /-- Neither has found the entry point. -/
  | notResolved {library library' : L} {left left' : B} {reason reason' : String}
      (hopened : opened library) (hopened' : opened' library')
      (hresolve : platform.resolve left library symbol = .error reason)
      (hresolve' : platform.resolve left' library' symbol = .error reason')
      (hreason : Text.Renamed (contents.title library) (contents.title library') reason reason') :
      Twins contents path symbol copy? copy?' name name' opened opened'
        (.failed (.symbolNotFound path symbol reason), .failed path symbol reason)
        (.failed (.symbolNotFound path symbol reason'), .failed path symbol reason')
  /-- Both have found it, in libraries with the same contents, and it is the same routine on the
  state of either library. -/
  | bound {library library' : L} {left left' : B} {routine routine' : Routine S}
      (hopened : opened library) (hopened' : opened' library')
      (hresolve : platform.resolve left library symbol = .ok routine)
      (hresolve' : platform.resolve left' library' symbol = .ok routine')
      (himage : contents.image library = contents.image library')
      (hown : contents.own (contents.file library) routine =
        contents.own (contents.file library') routine') :
      Twins contents path symbol copy? copy?' name name' opened opened'
        (.loaded, .loaded ⟨library, routine, copy?, path, symbol⟩)
        (.loaded, .loaded ⟨library', routine', copy?', path, symbol⟩)

variable {contents : platform.Contents File State} {aside : Bytes → Prop} {conn : ConnectionId}
  {directory? : Option Path} {request : LoadRequest} {world other : World B S}

/-- Two loads that open the same contents fare alike, if these stand alone. -/
theorem settled_twins {files files' : FileSystem} {books books' : B} {path path' : Path}
    {location location' : Location} {content : Bytes} (copy? copy?' : Option PrivateCopy)
    (isolate isolate' : Bool) (asked : Path) (symbol : String)
    (halone : contents.standsAlone content)
    (hplain : Platform.IsPlain path.bytes)
    (hlookup : files.lookup path = .ok (location, .file content))
    (hcurrent : contents.IsCurrent books location path.bytes content)
    (hplain' : Platform.IsPlain path'.bytes)
    (hlookup' : files'.lookup path' = .ok (location', .file content))
    (hcurrent' : contents.IsCurrent books' location' path'.bytes content) :
    Twins contents asked symbol copy? copy?' path.bytes path'.bytes
      (contents.OpenedFrom books location path.bytes content)
      (contents.OpenedFrom books' location' path'.bytes content)
      (settled platform.loader ⟨asked, symbol, isolate⟩ copy?
        (platform.loader.openLibrary files books path))
      (settled platform.loader ⟨asked, symbol, isolate'⟩ copy?'
        (platform.loader.openLibrary files' books' path')) := by
  have hopen := Platform.Contents.openPath_alone hplain hlookup halone hcurrent
  have hopen' := Platform.Contents.openPath_alone hplain' hlookup' halone hcurrent'
  rw [settled_platform, settled_platform]
  generalize platform.openPath files books path = opened at hopen ⊢
  generalize platform.openPath files' books' path' = opened' at hopen' ⊢
  rcases contents.accept_renamed halone path.bytes path'.bytes with
    ⟨image, hok, hok'⟩ | ⟨reason, reason', herror, herror', hreason⟩
  · -- the contents are accepted under both names
    obtain ⟨_, _, rfl, haccept⟩ | ⟨library, left, _, rfl, hfrom, -⟩ := hopen
    · cases hok.symm.trans haccept
    obtain ⟨_, _, rfl, haccept'⟩ | ⟨library', left', _, rfl, hfrom', -⟩ := hopen'
    · cases hok'.symm.trans haccept'
    have himage : contents.image library = contents.image library' :=
      (Except.ok.inj (hok.symm.trans hfrom.accept)).symm.trans
        (Except.ok.inj (hok'.symm.trans hfrom'.accept))
    rcases Platform.Contents.resolve_renamed hfrom.selfContained hfrom'.selfContained himage left
        left' symbol with
      ⟨routine, routine', hresolve, hresolve', hown⟩
        | ⟨reason, reason', hresolve, hresolve', hreason⟩
    · simp only [hresolve, hresolve', found]
      exact .bound hfrom hfrom' hresolve hresolve' himage hown
    · simp only [hresolve, hresolve', found]
      exact .notResolved hfrom hfrom' hresolve hresolve' hreason
  · -- they are refused under both names
    obtain ⟨_, _, rfl, haccept⟩ | ⟨_, _, _, rfl, hfrom, -⟩ := hopen
    · obtain ⟨_, _, rfl, haccept'⟩ | ⟨_, _, _, rfl, hfrom', -⟩ := hopen'
      · cases herror.symm.trans haccept
        cases herror'.symm.trans haccept'
        exact .notOpened hreason
      · cases herror'.symm.trans hfrom'.accept
    · cases herror.symm.trans hfrom.accept

/-- Loads that fare alike come to the same, up to the random part of a copy's name, if that is all
in which the names of their libraries differ. -/
theorem Twins.matches {path : Path} {symbol : String} {copy copy' : PrivateCopy}
    {opened opened' : L → Prop} {first second : LoadResult × Slot S L}
    (htwins : Twins contents path symbol (some copy) (some copy') copy.path.bytes copy'.path.bytes
      opened opened' first second)
    (htitle : ∀ library, opened library → contents.title library = copy.path.bytes)
    (htitle' : ∀ library, opened' library → contents.title library = copy'.path.bytes)
    (hpath : Bytes.Matches conn copy.path.bytes copy'.path.bytes) :
    first.1.Matches conn second.1 ∧ first.2.Matches contents conn second.2 := by
  cases htwins with
  | notOpened hreason => exact ⟨.failed (.libraryNotFound _ (hreason.matches hpath)), .empty⟩
  | notResolved hopened hopened' _ _ hreason =>
    rw [htitle _ hopened, htitle' _ hopened'] at hreason
    have htext := hreason.matches hpath
    exact ⟨.failed (.symbolNotFound _ _ htext), .failed _ _ htext⟩
  | bound _ _ _ _ himage hown => exact ⟨.same _, .loaded _ _ himage hown hpath⟩

/-- The copy that a request is given is one that the platform takes as it is written, with the
contents of the request's own file, and nothing is open from it. -/
theorem isPlain_of_isApart (horderly : contents.Orderly aside world)
    (hapart : request.IsApart contents aside world.files)
    (hdirectory : Platform.dollar ∉
      ((FileSystem.absolute world.files.workDir).join (directory?.getD world.tempDir)).bytes)
    {copy : PrivateCopy} {files : FileSystem}
    (hcreate : PrivateCopy.create world.files world.names request.path conn
      (directory?.getD world.tempDir) = .ok (copy, files)) :
    ∃ location content, world.files.lookup request.path = .ok (location, .file content)
      ∧ contents.standsAlone content ∧ Platform.IsPlain copy.path.bytes
      ∧ files.lookup copy.path = .ok (copy.location, .file content)
      ∧ contents.handles world.books (contents.located copy.location) = 0 := by
  obtain ⟨location, content, hsource, hfree, -, hlookup⟩ := PrivateCopy.lookup_of_create hcreate
  cases hapart with
  | refused hnone => simp [FileSystem.isFile, hsource] at hnone
  | file hlookup' halone haside hdollar =>
    cases hsource.symm.trans hlookup'
    exact ⟨location, content, hsource, halone,
      PrivateCopy.isPlain_of_create hcreate hdirectory hdollar, hlookup, horderly.tidy _ hfree⟩

/-- Once a copy of one file has been made for each of them, two loads come to the same. -/
theorem attach_matches_of_create (horderly : contents.Orderly aside world)
    (horderly' : contents.Orderly aside other) (hisolate : request.isolate = true)
    (hapart : request.IsApart contents aside world.files)
    (hdirectory : Platform.dollar ∉
      ((FileSystem.absolute world.files.workDir).join (directory?.getD world.tempDir)).bytes)
    (hdirectory' : Platform.dollar ∉
      ((FileSystem.absolute other.files.workDir).join (directory?.getD other.tempDir)).bytes)
    {copy copy' : PrivateCopy} {files files' : FileSystem}
    (hcreate : PrivateCopy.create world.files world.names request.path conn
      (directory?.getD world.tempDir) = .ok (copy, files))
    (hcreate' : PrivateCopy.create other.files other.names request.path conn
      (directory?.getD other.tempDir) = .ok (copy', files'))
    (hsource : other.files.lookup request.path = world.files.lookup request.path)
    (hpath : Bytes.Matches conn copy.path.bytes copy'.path.bytes) :
    (attach platform.loader directory? conn request world).1.Matches conn
        (attach platform.loader directory? conn request other).1
      ∧ (attach platform.loader directory? conn request world).2.1.Matches contents conn
        (attach platform.loader directory? conn request other).2.1 := by
  have hasked : (request.isolate && platform.loader.isFileBacked) = true := by
    simp [hisolate, Platform.loader]
  obtain ⟨location, content, hfile, halone, hplain, hlookup, hclosed⟩ :=
    isPlain_of_isApart horderly hapart hdirectory hcreate
  obtain ⟨location', content', hfile', -, hplain', hlookup', hclosed'⟩ :=
    isPlain_of_isApart horderly' (hapart.congr hsource) hdirectory' hcreate'
  -- both copies have the contents of the one file
  obtain rfl : content = content' := by
    cases hfile.symm.trans (hsource.symm.trans hfile')
    rfl
  have hattach := attach_of_create hasked (by simp [FileSystem.isFile, hfile]) hcreate
  have hattach' := attach_of_create hasked (by simp [FileSystem.isFile, hfile']) hcreate'
  have htwins := settled_twins (some copy) (some copy') request.isolate request.isolate
    request.path request.symbol halone
    hplain hlookup (Platform.Contents.isCurrent_of_closed hclosed)
    hplain' hlookup' (Platform.Contents.isCurrent_of_closed hclosed')
  rw [← hattach, ← hattach'] at htwins
  exact htwins.matches (fun library hfrom => hfrom.title hclosed)
    (fun library hfrom => hfrom.title hclosed') hpath

/-- A request for what the platform refuses comes to nothing. -/
theorem attach_refused (hapart : request.IsApart contents aside world.files)
    (hfile : world.files.isFile request.path = false) :
    ∃ reason, ∀ (directory? : Option Path) (conn : ConnectionId) (other : World B S),
      contents.Orderly aside other →
      other.files.lookup request.path = world.files.lookup request.path →
      let attempt := attach platform.loader directory? conn request other
      (attempt.1, attempt.2.1) = (.failed (.libraryNotFound request.path reason), .empty) := by
  cases hapart with
  | file hlookup => simp [FileSystem.isFile, hlookup] at hfile
  | @refused reason hnone hreason =>
    refine ⟨reason, fun directory? conn other horderly hsource => ?_⟩
    have hopen := hreason other.files other.books hsource horderly.unknown
    intro attempt
    have hattempt : (attempt.1, attempt.2.1) = _ :=
      attach_of_uncopied fun _ => (FileSystem.isFile_congr hsource).trans hfile
    rw [settled_platform] at hattempt
    generalize platform.openPath other.files other.books request.path = opened at hattempt hopen
    obtain ⟨result, left, change⟩ := opened
    cases hopen
    exact hattempt

/-- Two loads of one request for a private copy come to the same, whatever else there is that the
request has nothing to do with. -/
theorem attach_matches {before : FileSystem} {added : List (Location × Bytes)}
    (hfiles : world.files = before.adding added) (hother : other.files = before)
    (horderly : contents.Orderly aside world) (horderly' : contents.Orderly aside other)
    (hdirectory : directory?.getD world.tempDir = directory?.getD other.tempDir)
    (hdollar : Platform.dollar ∉
      ((FileSystem.absolute before.workDir).join (directory?.getD world.tempDir)).bytes)
    (hnames : ∀ taken, (world.names.pick taken).isSome = (other.names.pick taken).isSome)
    (hfree : before.AreFree added)
    (hthere : added = [] ∨ ∃ place, before.lookup ((FileSystem.absolute before.workDir).join
      (directory?.getD world.tempDir)) = .ok (place, .directory))
    (hothers : ∀ location ∈ added.map Prod.fst, ∀ fileName, request.path.fileName? = some fileName →
      ∀ part, location.getLast? ≠ some (PrivateCopy.nameOf request.path fileName conn part))
    (hsource : world.files.lookup request.path = before.lookup request.path)
    (hisolate : request.isolate = true)
    (hapart : request.IsApart contents aside before) :
    (attach platform.loader directory? conn request world).1.Matches conn
        (attach platform.loader directory? conn request other).1
      ∧ (attach platform.loader directory? conn request world).2.1.Matches contents conn
        (attach platform.loader directory? conn request other).2.1 := by
  have hsource' : other.files.lookup request.path = world.files.lookup request.path := by
    rw [hother, hsource]
  have hapart' := hapart.congr hsource
  cases hkind : world.files.isFile request.path with
  | false =>
    -- there is nothing to copy, and so the path itself is tried
    obtain ⟨reason, hattempt⟩ := attach_refused hapart' hkind
    have hworld := hattempt directory? conn world horderly rfl
    have hother := hattempt directory? conn other horderly' hsource'
    rw [Prod.mk.injEq] at hworld hother
    rw [hworld.1, hworld.2, hother.1, hother.2]
    exact ⟨.same _, .empty⟩
  | true =>
    have hkind' : other.files.isFile request.path = true :=
      (FileSystem.isFile_congr hsource').trans hkind
    obtain ⟨found, content, hlookup⟩ :=
      FileSystem.exists_of_isFile ((FileSystem.isFile_congr hsource).symm.trans hkind)
    have hmade := PrivateCopy.create_matches hnames hfree hthere hothers (hfiles ▸ hsource) hlookup
    have hworkDir : world.files.workDir = before.workDir := by
      rw [hfiles, FileSystem.workDir_adding]
    rw [← hfiles] at hmade
    rcases hmade with ⟨failure, failure', hcreate, hcreate', hmessage⟩
      | ⟨copy, copy', hcreate, hcreate', hpath⟩
    · rw [hdirectory, ← hother] at hcreate'
      have hasked : (request.isolate && platform.loader.isFileBacked) = true := by
        simp [hisolate, Platform.loader]
      have hworld := attach_of_refused hasked hkind hcreate
      have hother := attach_of_refused hasked hkind' hcreate'
      rw [Prod.mk.injEq] at hworld hother
      rw [hworld.1, hworld.2, hother.1, hother.2]
      exact ⟨.failed (.libraryNotFound _ hmessage), .empty⟩
    · rw [hdirectory, ← hother] at hcreate'
      refine attach_matches_of_create horderly horderly' hisolate hapart' (by rwa [hworkDir]) ?_
        hcreate hcreate' hsource' hpath
      rwa [← hdirectory, hother]

end Slot

end ControllerHost
