import EduEbook.Library.Runs
import EduEbook.Library.LogStore
import EduEbook.Data.BookId
import EduEbook.Data.Json
import EduEbook.Data.EbookModel
import EduEbook.Store.ObjectDb
import EduEbook.Store.EbookStores
import EduEbook.Store.Records
import EduEbook.Locator.Locators
import EduEbook.Locator.ReadingPosition
import EduEbook.Locator.OverlappingUpdates
import EduEbook.Downloads.DownloadPath
import EduEbook.Downloads.DownloadDetails
import EduEbook.Downloads.DownloadOutcome
import EduEbook.Downloads.DownloadHistory
import EduEbook.Downloads.AddDownload
import EduEbook.Downloads.DownloadDialog
import EduEbook.Library.PercentEncoding
import EduEbook.Downloads.OpenPdf
import EduEbook.Pages.DetailPages
import EduEbook.Pages.FavoriteButton
import EduEbook.Pages.FavoriteToggle
import EduEbook.Library.StaleIndex
import EduEbook.Pages.DownloadsPage
import EduEbook.Library.Significand
import EduEbook.Library.Checked
import EduEbook.Models.Decoding
import EduEbook.Models.BookModels
import EduEbook.Models.ApiModels
import EduEbook.Api.ApiClient
import EduEbook.Api.Repository
import EduEbook.Blocs.FetchBlocs
import EduEbook.Blocs.RandomPaths
import EduEbook.Blocs.TabBloc
import EduEbook.Pages.FavoritesList
import EduEbook.Pages.PdfReader
import EduEbook.Library.FirstSymbol
import EduEbook.Library.TextPattern
import EduEbook.Library.Tags
import EduEbook.Library.Utf16
import EduEbook.Pages.HtmlTags
import EduEbook.Pages.Preview
import EduEbook.Library.FormDecoding
import EduEbook.Blocs.SearchQuery
import EduEbook.Store.RemoveById
import EduEbook.Downloads.SizeText
import EduEbook.Downloads.ReaderChoice
import EduEbook.Blocs.CarouselBloc
import EduEbook.Blocs.SuccessStates
import EduEbook.Library.Linearizability
import EduEbook.Store.Histories
import EduEbook.Downloads.ExactFiles
import EduEbook.Pages.HeartQueue
import EduEbook.Store.Tables
import EduEbook.Library.EventQueue
import EduEbook.Blocs.Sessions
import EduEbook.Downloads.BookShelf
import EduEbook.Pages.MarkedBooks
import EduEbook.Locator.Positions
import EduEbook.Themes.EbookTheme
import EduEbook.Downloads.OverlappingDialogs
