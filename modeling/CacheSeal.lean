import CacheSeal.Json.Reader
import CacheSeal.Main
import CacheSeal.Proofs.CacheOperations
import CacheSeal.Proofs.CacheHistory
import CacheSeal.Proofs.FailingRuns
import CacheSeal.Proofs.JsonDrafts
import CacheSeal.Proofs.TreeEntries
import CacheSeal.Proofs.TreeWalks
import CacheSeal.Proofs.CacheFileWrites
import CacheSeal.Proofs.CommandEffects
import CacheSeal.Proofs.CorruptionDetection
import CacheSeal.Proofs.CacheFileReads
import CacheSeal.Proofs.AccessFailures
import CacheSeal.Proofs.SettingsOutcomes
import CacheSeal.Proofs.ChecksumContinuation
import CacheSeal.Proofs.ChecksumWords
import CacheSeal.Proofs.PointerWidths
import CacheSeal.Proofs.RepairedCaches
import CacheSeal.Proofs.RunsInStep
import CacheSeal.Proofs.ExitStatus
import CacheSeal.Proofs.CommandPlans
import CacheSeal.Proofs.SettingsResolution
import CacheSeal.Proofs.CombinedTransplant
import CacheSeal.Proofs.ReportFileWrites
import CacheSeal.Proofs.ArgumentPaths
import CacheSeal.Proofs.ValidationEffects
import CacheSeal.Proofs.ChecksumChains
import CacheSeal.Proofs.RehashedCaches
import CacheSeal.Proofs.TransplantedHashes
import CacheSeal.Proofs.HexWords
import CacheSeal.Proofs.ReportSchema
import CacheSeal.Proofs.HeaderWindows
import CacheSeal.Proofs.FieldAccess
import CacheSeal.Proofs.CacheAssembly
import CacheSeal.Proofs.MirroredOrders
import CacheSeal.Proofs.DocumentMappings
import CacheSeal.Proofs.TextOrder
import CacheSeal.Proofs.SettingsFaults
import CacheSeal.Proofs.AtomicReports
import CacheSeal.Proofs.SharedBlocks
import CacheSeal.Proofs.QuotedTexts
import CacheSeal.Proofs.MisspeltKeys
import CacheSeal.Proofs.ReportTexts
import CacheSeal.Proofs.EscapedTexts
import CacheSeal.Proofs.AsciiDocuments
import CacheSeal.Proofs.JsonSpelling
import CacheSeal.Proofs.Payloads
import CacheSeal.Proofs.ReportRoundTrip
import CacheSeal.Proofs.PathLengths
import CacheSeal.Proofs.MissingDirectories
import CacheSeal.Proofs.WritablePlaces
