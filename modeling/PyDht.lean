import PyDht.BencodeRoundTrip
import PyDht.RoutingRestore
import PyDht.CandidateRuns
import PyDht.DatabaseRecovery
import PyDht.DatabaseQueueRuns
import PyDht.Endpoints
import PyDht.Text
import PyDht.NodeSystem
import PyDht.KrpcQueries
import PyDht.PeerStore
import PyDht.Lib.Effects
import PyDht.ProvenanceRuns
import PyDht.QuerySettlement
import PyDht.KrpcSafety
import PyDht.KrpcDisclosure
import PyDht.TokenRuns
import PyDht.TerminalStates
import PyDht.CatalogueConsistency
import PyDht.CandidateRelease
import PyDht.RestartRuns
import PyDht.RoutingRetention
import PyDht.RoutingRumours
import PyDht.RoutingAnswers
import PyDht.JsonlWriterRuns
import PyDht.IndexerRange
import PyDht.BencodeNumerals
import PyDht.MetadataMessages
import PyDht.PeerStoreRuns
import PyDht.SamplerRuns
import PyDht.CrawlerDials
import PyDht.DialDiscipline
import PyDht.RetryRuns
import PyDht.TokenLifetime
import PyDht.IndexedPaths
import PyDht.MetadataHeaders
import PyDht.LookupBudget
import PyDht.AdvertisedIds
import PyDht.MetadataTransfers
import PyDht.MetadataAnswers
import PyDht.ResponseRoom
import PyDht.StockRuns
import PyDht.CompactNodes
import PyDht.CatalogueSearch
import PyDht.SnapshotRestore
import PyDht.TokenBucket
import PyDht.RotationRuns
import PyDht.SamplerRounds
import PyDht.MaintenanceRuns
import PyDht.OutgoingDatagrams
import PyDht.TelegramResponses
import PyDht.NotifierRuns
import PyDht.Exchange
import PyDht.CatalogueAuthenticity
import PyDht.CrawlerAuthenticity
import PyDht.DatabaseLinearization
import PyDht.StoreRefinement
import PyDht.SnapshotStoreRuns
