import CloudApi.Js
import CloudApi.Semver.Version
import CloudApi.Semver.Range
import CloudApi.Newest
import CloudApi.Backend
import CloudApi.Packages
import CloudApi.PackageCache
import CloudApi.Datasets.Translate
import CloudApi.Datasets.Load
import CloudApi.Datasets.Routes
import CloudApi.App
import CloudApi.Plugins
import CloudApi.XForwardedFor
import CloudApi.Server
