import PetApp.Lib.Runs
import PetApp.Lib.Lists
import PetApp.Lib.Regex
import PetApp.Lib.Columns
import PetApp.Lib.Scale
import PetApp.Platform.Foundation
import PetApp.Platform.Firestore
import PetApp.Favorite.Store
import PetApp.Favorite.DetailItem
import PetApp.Favorite.Toggle
import PetApp.Favorite.FailedSave
import PetApp.Favorite.FavoriteVC
import PetApp.Layout.Pinterest
import PetApp.Library.ListView
import PetApp.Library.TabBar
import PetApp.Account.Profile
import PetApp.Favorite.Isolation
import PetApp.Account.Login
import PetApp.Account.StaleProfile
import PetApp.Account.UserDetail
import PetApp.Account.Validators
import PetApp.Account.SignUp
import PetApp.Account.SignUpBackend
import PetApp.Pet.Records
import PetApp.Post.Screen
import PetApp.Post.Service
import PetApp.Post.Table
import PetApp.Post.Twins
import PetApp.Search.SearchCell
import PetApp.Search.Commute
import PetApp.Loading.Overlay
import PetApp.Favorite.HomeStrip
import PetApp.Favorite.Navigation
import PetApp.Pet.ListScreens
import PetApp.Account.Loaders
import PetApp.Account.AccountScreen
import PetApp.Account.ProfileValidity
import PetApp.Search.Settle
import PetApp.Search.CommonRule
import PetApp.Library.Grid
import PetApp.Layout.Geometry
import PetApp.Account.Grammars
import PetApp.Account.SignUpGate
import PetApp.Favorite.CellReuse
import PetApp.Favorite.Reopen
import PetApp.Library.Load
import PetApp.Pet.AddPetForm
import PetApp.Lib.Traces
import PetApp.Account.Service
import PetApp.Account.Lifecycle
import PetApp.Layout.StretchyHeader
import PetApp.Lib.Deferred
import PetApp.Navigation.TabBarHidden
import PetApp.Pet.Details
import PetApp.Lib.Tickets
import PetApp.Post.Cells
import PetApp.Account.LoginForm
import PetApp.Account.Provenance
import PetApp.Favorite.Duplicates
import PetApp.Layout.Removal
import PetApp.Favorite.Interleaving
import PetApp.Favorite.LibraryOrigin
